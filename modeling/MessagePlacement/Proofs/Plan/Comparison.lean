import MessagePlacement.Proofs.Plan.Message

/-!
# Folding in different lists

Where a message is folded depends on the messages whose names begin with the same segment, and on
no others.  The more of them there are, the higher up it is folded; and in lists that agree on
these messages it is folded at the same depth, or passed over in both.
-/

namespace MessagePlacement

variable {ds es : List Declaration} {d : Declaration} {s : String}

/-! ### More messages -/

/-- Namespaces that directly contain a message still do when messages are added. -/
theorem messageLevels_subset {segments : List String}
    (h : ∀ e ∈ ds, e.segments.head? = segments.head? → e ∈ es) :
  messageLevels ds segments ⊆ messageLevels es segments
  := by
  rintro k ⟨hpos, hk, e, he, hlength, htake⟩
  have hhead := congrArg List.head? htake
  have hne : k ≠ 0 := Nat.ne_of_gt hpos
  rw [List.head?_take, List.head?_take, if_neg hne, if_neg hne] at hhead
  exact ⟨hpos, hk, e, h e he hhead, hlength, htake⟩

/-- Adding messages moves the fold depth of a message up, if at all. -/
theorem foldDepth_le (hd : d ∈ ds) (hd' : d ∈ es)
    (h : ∀ e ∈ ds, e.segments.head? = d.segments.head? → e ∈ es) :
  foldDepth es d.segments ≤ foldDepth ds d.segments
  := by
  have hne := List.length_pos_of_ne_nil d.segments_ne_nil
  by_cases hlength : d.segments.length = 1
  · rw [foldDepth_of_length_eq_one hlength, foldDepth_of_length_eq_one hlength]
  · have hleast := foldDepth_isLeast hd (by omega)
    apply (foldDepth_isLeast hd' (by omega)).2
    apply messageLevels_subset h hleast.1

/-! ### The same messages -/

/-- `AgreeOn s ds es`: the same declarations of both lists have names that begin with the segment
`s`. -/
def AgreeOn (s : String) (ds es : List Declaration) : Prop :=
  ∀ d : Declaration, d.segments.head? = some s → (d ∈ ds ↔ d ∈ es)

/-- What continues the name of a message begins with the same segment. -/
theorem head?_eq_of_isPrefix {e : Declaration} (h : d.segments <+: e.segments) :
  e.segments.head? = d.segments.head?
  := by
  obtain ⟨rest, hrest⟩ := h
  rw [← hrest, List.head?_append_of_ne_nil _ d.segments_ne_nil]

namespace AgreeOn

theorem symm (h : AgreeOn s ds es) :
  AgreeOn s es ds
  := by
  intro d hs
  rw [h d hs]

theorem foldDepth_eq (h : AgreeOn s ds es) (hd : d ∈ ds) (hs : d.segments.head? = some s) :
  foldDepth ds d.segments = foldDepth es d.segments
  := by
  have hd' := (h d hs).mp hd
  apply Nat.le_antisymm
  · apply foldDepth_le hd' hd
    intro e he heq
    exact (h e (heq.trans hs)).mpr he
  · apply foldDepth_le hd hd'
    intro e he heq
    exact (h e (heq.trans hs)).mp he

theorem isPassedOver (h : AgreeOn s ds es) (hs : d.segments.head? = some s)
    (hover : IsPassedOver ds d) :
  IsPassedOver es d
  := by
  have hmem : ∀ e : Declaration, d.segments <+: e.segments → (e ∈ ds ↔ e ∈ es) :=
    fun e hprefix => h e ((head?_eq_of_isPrefix hprefix).trans hs)
  obtain ⟨hone, ⟨e, he, hprefix, hne⟩, hnone⟩ := hover
  refine ⟨hone, ⟨e, (hmem e hprefix).mp he, hprefix, hne⟩, ?_⟩
  intro f hf hprefix'
  apply hnone f ((hmem f hprefix').mpr hf) hprefix'

/-- A message is passed over in both lists or in neither. -/
theorem isPassedOver_iff (h : AgreeOn s ds es) (hs : d.segments.head? = some s) :
  IsPassedOver ds d ↔ IsPassedOver es d
  := ⟨h.isPassedOver hs, h.symm.isPassedOver hs⟩

/-- What plans for the two lists give to a message is the same. -/
theorem lookup_eq (h : AgreeOn s ds es) {field : Placement → String} {l l' : List (Int × String)}
    (hl : Tabulates ds field l) (hl' : Tabulates es field l') (hid : (ds.map (·.id)).Nodup)
    (hid' : (es.map (·.id)).Nodup) (hd : d ∈ ds) (hs : d.segments.head? = some s) :
  l.lookup d.id = l'.lookup d.id
  := by
  rw [hl.lookup_of_mem hid hd, hl'.lookup_of_mem hid' ((h d hs).mp hd), h.foldDepth_eq hd hs]
  simp only [h.isPassedOver_iff hs]

end AgreeOn

end MessagePlacement
