import MessagePlacement.Proofs.Plan.Depth

/-!
# Where a message is folded

A message in a namespace is folded at the first of its namespaces that directly contains a
message; there is one, since its own namespace contains the message itself.  A message
outside of any namespace is folded at its own name, unless the search passes over it: names
go on below its own, but none by exactly one segment.
-/

namespace MessagePlacement

variable {ds : List Declaration} {d : Declaration}

/-! ### Messages in namespaces -/

/-- The lengths of the namespaces along `segments` that directly contain a message. -/
def messageLevels (ds : List Declaration) (segments : List String) : Set Nat :=
  { k | 1 ≤ k ∧ k < segments.length
      ∧ ∃ e ∈ ds, e.segments.length = k + 1 ∧ e.segments.take k = segments.take k }

/-- The innermost namespace of a message contains the message. -/
theorem length_sub_one_mem_messageLevels (hd : d ∈ ds) (hlength : 2 ≤ d.segments.length) :
  d.segments.length - 1 ∈ messageLevels ds d.segments
  := by
  refine ⟨by omega, by omega, d, hd, by omega, rfl⟩

/-- Above a message, a namespace is a fold level when it directly contains a message. -/
theorem isFoldLevel_take_iff (hd : d ∈ ds) {k : Nat} (hpos : 1 ≤ k) (hk : k < d.segments.length) :
  IsFoldLevel ds (d.segments.take k) ↔ k ∈ messageLevels ds d.segments
  := by
  have hlength : (d.segments.take k).length = k := List.length_take_of_le (Nat.le_of_lt hk)
  constructor
  · rintro (hend | ⟨e, he, hprefix, hsucc⟩)
    · have heq := congrArg List.length (hend d hd (List.take_prefix k _))
      rw [hlength] at heq
      omega
    · rw [hlength] at hsucc
      refine ⟨hpos, hk, e, he, hsucc, ?_⟩
      have htake := List.prefix_iff_eq_take.mp hprefix
      rw [hlength] at htake
      apply htake.symm
  · rintro ⟨-, -, e, he, hsucc, htake⟩
    right
    use e, he
    rw [hlength]
    constructor
    · rw [← htake]
      apply List.take_prefix k _
    · apply hsucc

/-- A message in a namespace is folded at the first of its namespaces that directly contains
a message. -/
theorem isFoldDepth_iff_isLeast (hd : d ∈ ds) (hlength : 2 ≤ d.segments.length) {k : Nat} :
  IsFoldDepth ds d.segments k ↔ IsLeast (messageLevels ds d.segments) k
  := by
  have hown := length_sub_one_mem_messageLevels hd hlength
  constructor
  · rintro ⟨hpos, hle, hlevel, hfirst⟩
    have hk : k < d.segments.length := by
      by_contra hge
      apply hfirst (d.segments.length - 1) (by omega) (by omega)
      rw [isFoldLevel_take_iff hd (by omega) (by omega)]
      apply hown
    constructor
    · exact (isFoldLevel_take_iff hd hpos hk).mp hlevel
    · intro j hj
      by_contra hlt
      apply hfirst j hj.1 (by omega)
      exact (isFoldLevel_take_iff hd hj.1 hj.2.1).mpr hj
  · rintro ⟨hmem, hleast⟩
    have hpos := hmem.1
    have hk := hmem.2.1
    constructor
    · apply hpos
    · apply Nat.le_of_lt hk
    · exact (isFoldLevel_take_iff hd hpos hk).mpr hmem
    · intro j hj hlt hlevel
      have hle := hleast ((isFoldLevel_take_iff hd hj (Nat.lt_trans hlt hk)).mp hlevel)
      omega

/-- The least member of `messageLevels ds segments`, or one if there is none. -/
def foldDepth (ds : List Declaration) (segments : List String) : Nat :=
  ((List.range' 1 (segments.length - 1)).find? fun k =>
    ds.any fun e => e.segments.length == k + 1 && e.segments.take k == segments.take k).getD 1

theorem foldDepth_of_length_eq_one {segments : List String} (hlength : segments.length = 1) :
  foldDepth ds segments = 1
  := by
  rw [foldDepth, hlength]
  rfl

theorem foldDepth_isLeast (hd : d ∈ ds) (hlength : 2 ≤ d.segments.length) :
  IsLeast (messageLevels ds d.segments) (foldDepth ds d.segments)
  := by
  have hlevel : ∀ k, 1 ≤ k → k < d.segments.length →
      ((ds.any fun e => e.segments.length == k + 1 && e.segments.take k == d.segments.take k) = true
        ↔ k ∈ messageLevels ds d.segments) := by
    intro k hpos hk
    simp [messageLevels, hpos, hk]
  have hown := length_sub_one_mem_messageLevels hd hlength
  cases hfind : (List.range' 1 (d.segments.length - 1)).find? fun k =>
      ds.any fun e => e.segments.length == k + 1 && e.segments.take k == d.segments.take k with
  | none =>
      exfalso
      rw [List.find?_eq_none] at hfind
      apply hfind (d.segments.length - 1) (List.mem_range'_1.mpr (by omega))
      exact (hlevel _ hown.1 hown.2.1).mpr hown
  | some k =>
      rw [foldDepth, hfind, Option.getD_some]
      rw [List.find?_range'_eq_some] at hfind
      obtain ⟨hk, hrange, hfirst⟩ := hfind
      rw [List.mem_range'_1] at hrange
      constructor
      · exact (hlevel k hrange.1 (by omega)).mp hk
      · intro j hj
        by_contra hlt
        have hnot := hfirst j hj.1 (by omega)
        rw [(hlevel j hj.1 hj.2.1).mpr hj] at hnot
        cases hnot

theorem foldDepth_pos (hd : d ∈ ds) :
  1 ≤ foldDepth ds d.segments
  := by
  have hne := List.length_pos_of_ne_nil d.segments_ne_nil
  by_cases hlength : d.segments.length = 1
  · rw [foldDepth_of_length_eq_one hlength]
  · apply (foldDepth_isLeast hd (by omega)).1.1

/-- A message is folded at its own name or above it. -/
theorem foldDepth_lt (hd : d ∈ ds) :
  foldDepth ds d.segments - 1 < d.segments.length
  := by
  have hne := List.length_pos_of_ne_nil d.segments_ne_nil
  by_cases hlength : d.segments.length = 1
  · rw [foldDepth_of_length_eq_one hlength]
    omega
  · have hlt := (foldDepth_isLeast hd (by omega)).1.2.1
    omega

/-! ### Messages outside of namespaces -/

/-- The search passes over a message outside of any namespace when names go on below its own,
but none by exactly one segment. -/
def IsPassedOver (ds : List Declaration) (d : Declaration) : Prop :=
  d.segments.length = 1
    ∧ (∃ e ∈ ds, d.segments <+: e.segments ∧ e.segments ≠ d.segments)
    ∧ ∀ e ∈ ds, d.segments <+: e.segments → e.segments.length ≠ 2

instance (ds : List Declaration) (d : Declaration) : Decidable (IsPassedOver ds d) :=
  inferInstanceAs (Decidable (_ ∧ _ ∧ _))

/-- Among any messages there is one that is not passed over.  For below a message that is, there
are messages in namespaces, and these are not. -/
theorem exists_not_isPassedOver (hd : d ∈ ds) :
  ∃ e ∈ ds, ¬ IsPassedOver ds e
  := by
  by_cases hover : IsPassedOver ds d
  · obtain ⟨hone, ⟨e, he, hbelow, hne⟩, -⟩ := hover
    use e, he
    rintro ⟨hone', -⟩
    apply hne
    apply (hbelow.eq_of_length (hone.trans hone'.symm)).symm
  · use d, hd

/-- A message outside of any namespace can only be folded at its own name. -/
theorem isFoldDepth_of_length_eq_one (hlength : d.segments.length = 1) {k : Nat} :
  IsFoldDepth ds d.segments k ↔ k = 1 ∧ ¬ IsPassedOver ds d
  := by
  have hlevel : IsFoldLevel ds d.segments ↔ ¬ IsPassedOver ds d := by
    rw [IsFoldLevel, IsPassedOver, hlength]
    push Not
    constructor
    · rintro (hend | ⟨e, he, hprefix, htwo⟩) - ⟨f, hf, hf', hne⟩
      · exact absurd (hend f hf hf') hne
      · exact ⟨e, he, hprefix, htwo⟩
    · intro hnot
      by_cases hbelow : ∃ e ∈ ds, d.segments <+: e.segments ∧ e.segments ≠ d.segments
      · right
        apply hnot rfl hbelow
      · left
        push Not at hbelow
        apply hbelow
  have hwhole : d.segments.take 1 = d.segments := List.take_of_length_le (Nat.le_of_eq hlength)
  constructor
  · rintro ⟨hpos, hle, hfold, -⟩
    obtain rfl : k = 1 := by omega
    rw [hwhole] at hfold
    exact ⟨rfl, hlevel.mp hfold⟩
  · rintro ⟨rfl, hnot⟩
    constructor
    · apply Nat.le_refl 1
    · apply Nat.le_of_eq hlength.symm
    · rw [hwhole]
      apply hlevel.mpr hnot
    · intro j hpos hlt
      omega

/-- A message is folded exactly when it is not passed over, and then at `foldDepth`. -/
theorem isFoldDepth_iff (hd : d ∈ ds) {k : Nat} :
  IsFoldDepth ds d.segments k ↔ k = foldDepth ds d.segments ∧ ¬ IsPassedOver ds d
  := by
  by_cases hlength : d.segments.length = 1
  · rw [isFoldDepth_of_length_eq_one hlength, foldDepth_of_length_eq_one hlength]
  · have hne := List.length_pos_of_ne_nil d.segments_ne_nil
    have hleast := foldDepth_isLeast hd (by omega : 2 ≤ d.segments.length)
    rw [isFoldDepth_iff_isLeast hd (by omega)]
    constructor
    · intro hk
      exact ⟨hk.unique hleast, fun hover => hlength hover.1⟩
    · rintro ⟨rfl, -⟩
      apply hleast

/-! ### What a plan says -/

namespace Tabulates

variable {field : Placement → String} {l : List (Int × String)}

/-- The value of a message is the one at its fold depth, if it is not passed over. -/
theorem lookup_of_mem (h : Tabulates ds field l) (hid : (ds.map (·.id)).Nodup) (hd : d ∈ ds) :
  l.lookup d.id
    = if IsPassedOver ds d then none else some (field (d.placementAt (foldDepth ds d.segments)))
  := by
  apply Option.ext
  intro v
  rw [h]
  constructor
  · rintro ⟨e, he, k, hk, heq, rfl⟩
    obtain rfl := List.inj_on_of_nodup_map hid he hd heq
    obtain ⟨rfl, hnot⟩ := (isFoldDepth_iff hd).mp hk
    rw [if_neg hnot]
  · intro hv
    split at hv
    · cases hv
    · rename_i hnot
      exact ⟨d, hd, _, (isFoldDepth_iff hd).mpr ⟨rfl, hnot⟩, rfl, Option.some.inj hv⟩

/-- An id without a declaration has no value. -/
theorem lookup_of_not_mem (h : Tabulates ds field l) {i : Int} (hi : ∀ d ∈ ds, d.id ≠ i) :
  l.lookup i = none
  := by
  apply Option.eq_none_iff_forall_ne_some.mpr
  intro v hv
  obtain ⟨d, hd, k, -, heq, -⟩ := (h i v).mp hv
  apply hi d hd heq

/-- The ids with a value are those of the messages that are not passed over. -/
theorem mem_ids_iff (h : Tabulates ds field l) {i : Int} :
  i ∈ l.map Prod.fst ↔ ∃ d ∈ ds, d.id = i ∧ ¬ IsPassedOver ds d
  := by
  rw [mem_keys_iff]
  constructor
  · rintro ⟨v, hv⟩
    obtain ⟨d, hd, k, hk, hi, -⟩ := (h i v).mp hv
    exact ⟨d, hd, hi, ((isFoldDepth_iff hd).mp hk).2⟩
  · rintro ⟨d, hd, hi, hnot⟩
    exact ⟨_, (h i _).mpr ⟨d, hd, _, (isFoldDepth_iff hd).mpr ⟨rfl, hnot⟩, hi, rfl⟩⟩

end Tabulates

theorem Declaration.group_placementAt {k : Nat} (hk : k - 1 < d.segments.length) :
  some (d.placementAt k).group = d.segments[k - 1]?
  := by
  rw [placementAt, ← List.head?_drop, List.headD_eq_head?_getD]
  cases hhead : (d.segments.drop (k - 1)).head? with
  | some s => rfl
  | none =>
      rw [List.head?_eq_none_iff, List.drop_eq_nil_iff] at hhead
      omega

/-- A message in a namespace is folded at the first of its namespaces that directly contains
a message: its path is the way from there down to it, and its group the last segment of that
namespace.  A message outside of any namespace has the empty path and itself as group, if it
is folded at all, and other ids are not. -/
theorem Tree.plan_at_least_level
    (ds : List Declaration) (hid : (ds.map (·.id)).Nodup) (hname : (ds.map (·.name)).Nodup) :
  ∃ t, Tree.ofList ds = .ok t
    ∧ (t.plan.paths.map Prod.fst).Nodup ∧ (t.plan.groups.map Prod.fst).Nodup
    ∧ (∀ d ∈ ds, 2 ≤ d.segments.length →
        ∃ k, IsLeast (messageLevels ds d.segments) k
          ∧ t.plan.paths.lookup d.id = some (Text.join "." (d.segments.drop (k - 1)).dropLast)
          ∧ t.plan.groups.lookup d.id = d.segments[k - 1]?)
    ∧ (∀ d ∈ ds, d.segments.length = 1 →
        (t.plan.paths.lookup d.id = none ∧ t.plan.groups.lookup d.id = none)
          ∨ (t.plan.paths.lookup d.id = some "" ∧ t.plan.groups.lookup d.id = d.segments[0]?))
    ∧ ∀ i, (∀ d ∈ ds, d.id ≠ i) → t.plan.paths.lookup i = none ∧ t.plan.groups.lookup i = none
  := by
  obtain ⟨t, ht⟩ := (Tree.exists_ofList_iff ds).mpr hname
  have h := Tree.holds_of_ofList ht
  have hpaths := h.tabulates_paths hid
  have hgroups := h.tabulates_groups hid
  refine ⟨t, ht, t.root.nodup_plan.1, t.root.nodup_plan.2, ?_, ?_, ?_⟩
  · intro d hd hlength
    have hleast := foldDepth_isLeast hd hlength
    have hnot : ¬ IsPassedOver ds d := by
      rintro ⟨hone, -⟩
      omega
    use foldDepth ds d.segments, hleast
    constructor
    · rw [hpaths.lookup_of_mem hid hd, if_neg hnot]
      rfl
    · have hlt := hleast.1.2.1
      rw [hgroups.lookup_of_mem hid hd, if_neg hnot]
      apply Declaration.group_placementAt (by omega)
  · intro d hd hlength
    rw [hpaths.lookup_of_mem hid hd, hgroups.lookup_of_mem hid hd]
    by_cases hover : IsPassedOver ds d
    · left
      simp [hover]
    · right
      have hdepth := ((isFoldDepth_of_length_eq_one hlength).mpr ⟨rfl, hover⟩)
      obtain ⟨hdepth, -⟩ := (isFoldDepth_iff hd).mp hdepth
      obtain ⟨s, hs⟩ := List.length_eq_one_iff.mp hlength
      rw [if_neg hover, if_neg hover, ← hdepth]
      constructor
      · rw [Declaration.placementAt, hs]
        rfl
      · apply Declaration.group_placementAt (by omega)
  · intro i hi
    exact ⟨hpaths.lookup_of_not_mem hi, hgroups.lookup_of_not_mem hi⟩

/-- Messages of two namespaces whose names begin alike, one message below another, and one
outside of any namespace. -/
def nestedMessages : List Declaration :=
  [⟨4, "a.b.X", none, by decide, by decide, by decide, by decide⟩,
    ⟨7, "a.bc.Y", none, by decide, by decide, by decide, by decide⟩,
    ⟨2, "a.b.X.Inner", none, by decide, by decide, by decide, by decide⟩,
    ⟨9, "Solo", none, by decide, by decide, by decide, by decide⟩]

theorem Tree.plan_at_least_level_nestedMessages :
  (nestedMessages.map (·.id)).Nodup ∧ (nestedMessages.map (·.name)).Nodup
    ∧ ∃ t, Tree.ofList nestedMessages = .ok t
      ∧ t.plan.paths.lookup 2 = some "b.X" ∧ t.plan.groups.lookup 2 = some "b"
  := by
  refine ⟨by decide, by decide, ?_⟩
  obtain ⟨t, ht, -, -, h, -, -⟩ :=
    Tree.plan_at_least_level nestedMessages (by decide) (by decide)
  obtain ⟨k, hk, hpath, hgroup⟩ := h (nestedMessages[2]) (by decide) (by decide)
  obtain rfl := hk.unique (foldDepth_isLeast (by decide) (by decide))
  use t, ht
  constructor
  · apply hpath.trans (by decide)
  · apply hgroup.trans (by decide)

end MessagePlacement
