import MessagePlacement.Proofs.Tree.Structure

/-!
# Splitting and joining as inverses

At a separator of one character, splitting drops the empty parts of a text.  So joining gives back
the texts in which there are none, the empty text, and the texts that are `IsTight`: the separator
stands neither at an end of them nor next to itself.  The names of declarations are tight, for no
part of them is blank, so that a name is determined by its segments and by the node that it leads
to.
-/

namespace MessagePlacement

namespace Text

variable {sep : String} {c : Char}

/-- `IsTight c s`: the character stands neither at an end of the text nor next to itself. -/
structure IsTight (c : Char) (s : String) : Prop where
  head?_ne : s.toList.head? ≠ some c
  getLast?_ne : s.toList.getLast? ≠ some c
  not_doubled : ¬ [c, c] <:+: s.toList

/-! ### Empty parts -/

theorem getLast?_cons_eq_some_iff {x : Char} {cs : List Char} :
  (x :: cs).getLast? = some c ↔ cs = [] ∧ x = c ∨ cs.getLast? = some c
  := by
  cases cs with
  | nil => simp
  | cons y cs => simp [List.getLast?_cons_cons]

theorem doubled_prefix_cons_iff {x : Char} {cs : List Char} :
  [c, c] <+: x :: cs ↔ x = c ∧ cs.head? = some c
  := by
  cases cs with
  | nil => simp [List.cons_prefix_cons]
  | cons y cs => simp [List.cons_prefix_cons, eq_comm]

/-- The first part is empty exactly when there is nothing or the separator before it. -/
theorem head?_splitOn_eq_some_nil_iff {cs : List Char} :
  (cs.splitOn c).head? = some [] ↔ cs = [] ∨ cs.head? = some c
  := by
  cases cs with
  | nil => simp
  | cons x cs =>
      obtain ⟨p, ps, hparts⟩ := List.exists_cons_of_ne_nil (List.splitOn_ne_nil c cs)
      rw [List.splitOn_cons_eq_if_modifyHead, hparts]
      by_cases hx : x = c
      · simp [hx]
      · simp [hx]

theorem nil_mem_splitOn_iff_head?_or_tail {cs : List Char} :
  [] ∈ cs.splitOn c ↔ (cs = [] ∨ cs.head? = some c) ∨ [] ∈ (cs.splitOn c).tail
  := by
  rw [← head?_splitOn_eq_some_nil_iff]
  obtain ⟨p, ps, hparts⟩ := List.exists_cons_of_ne_nil (List.splitOn_ne_nil c cs)
  simp [hparts, eq_comm]

/-- A part after the first one is empty exactly when the separator is at the end or doubled. -/
theorem nil_mem_tail_splitOn_iff {cs : List Char} :
  [] ∈ (cs.splitOn c).tail ↔ cs.getLast? = some c ∨ [c, c] <:+: cs
  := by
  induction cs with
  | nil => simp
  | cons x cs ih =>
      rw [List.splitOn_cons_eq_if_modifyHead, List.infix_cons_iff, getLast?_cons_eq_some_iff,
        doubled_prefix_cons_iff]
      by_cases hx : x = c
      · rw [if_pos (beq_iff_eq.mpr hx), List.tail_cons, nil_mem_splitOn_iff_head?_or_tail, ih]
        simp only [hx, and_true, true_and]
        tauto
      · rw [if_neg (by simpa using hx), List.tail_modifyHead, ih]
        simp only [hx, and_false, false_and, false_or]

/-- A part of a text that is not empty is empty exactly when the text is not tight. -/
theorem forall_mem_parts_ne_empty_iff (hsep : sep.toList = [c]) {s : String} (hs : s ≠ "") :
  (∀ x ∈ parts sep s, x ≠ "") ↔ IsTight c s
  := by
  have hne : s.toList ≠ [] := fun h => hs (String.toList_injective h)
  have hempty : (∀ x ∈ parts sep s, x ≠ "") ↔ [] ∉ s.toList.splitOn c := by
    rw [parts_eq_splitOn hsep, List.forall_mem_map]
    constructor
    · intro h hnil
      apply h [] hnil rfl
    · intro hnil l hl heq
      rw [← String.toList_inj, String.toList_ofList] at heq
      rw [heq] at hl
      exact hnil hl
  rw [hempty, nil_mem_splitOn_iff_head?_or_tail, nil_mem_tail_splitOn_iff]
  constructor
  · intro h
    simp only [not_or] at h
    exact ⟨h.1.2, h.2.1, h.2.2⟩
  · rintro ⟨hstart, hend, hdoubled⟩
    simp only [not_or]
    exact ⟨⟨hne, hstart⟩, hend, hdoubled⟩

/-! ### Inverses -/

/-- Joining the segments of a text gives it back exactly when it is empty or tight. -/
theorem join_segmentsOn_eq_iff (hsep : sep.toList = [c]) {s : String} :
  join sep (segmentsOn sep s) = s ↔ s = "" ∨ IsTight c s
  := by
  rcases eq_or_ne s "" with rfl | hs
  · refine iff_of_true ?_ (.inl rfl)
    rfl
  · rw [or_iff_right hs, ← forall_mem_parts_ne_empty_iff hsep hs]
    constructor
    · intro h
      have hsegments : segmentsOn sep s ≠ [] := by
        intro hnil
        rw [hnil] at h
        apply hs h.symm
      -- a text has one list of parts, and these are the segments, none of which is empty
      have hparts := parts_join hsep hsegments fun x hx => (isSegment_of_mem_segmentsOn hsep hx).2
      rw [h] at hparts
      rw [hparts]
      exact fun x hx => (isSegment_of_mem_segmentsOn hsep hx).1
    · intro h
      rw [segmentsOn_eq_parts h, join_parts hsep]

theorem split_eq_segmentsOn (hsep : sep.toList = [c]) (s : String) :
  split s sep = .ok (segmentsOn sep s)
  := by
  have hne : sep ≠ "" := by
    rintro rfl
    cases hsep
  by_cases hs : s = ""
  · rw [split, if_pos hs, hs]
    rfl
  · rw [split, if_neg hs, if_neg hne]

end Text

/-! ### Names of declarations -/

/-- The names that are accepted are those of declarations. -/
theorem Declaration.checkName_eq_ok_iff {s : String} :
  (∃ n, checkName s = .ok n) ↔ ∃ d : Declaration, d.name = s
  := by
  constructor
  · rintro ⟨⟨name, hname⟩, h⟩
    rw [checkName] at h
    split at h
    · cases h
    · rename_i hne
      split at h
      · rename_i hparts
        exact ⟨⟨0, s, none, by decide, by decide, hne, hparts⟩, rfl⟩
      · cases h
  · rintro ⟨d, rfl⟩
    rw [checkName, dif_neg d.name_ne, dif_pos d.parts_ne_blank]
    exact ⟨_, rfl⟩

/-- The names of declarations are tight. -/
theorem Declaration.isTight_name (d : Declaration) :
  Text.IsTight '.' d.name
  := by
  have h := (Text.join_segmentsOn_eq_iff Text.toList_dot).mp d.join_segments
  exact h.resolve_left d.name_ne

/-- The node that the name of a declaration leads to has this name. -/
theorem Tree.Stores.fullName_of_node? {t : Tree} {entries : List (List String × Declaration)}
    (h : t.Stores entries) {d : Declaration} {n : Node} (hn : t.node? d.name = some n) :
  n.fullName = d.name
  := by
  rw [(h.located.descend? hn).fullName_eq, List.nil_append]
  apply d.join_segments

/-- At a separator of one character, splitting gives back texts that have been joined, if they are
not empty and do not have the separator in them, and joining gives back a text that has been split
exactly when it is empty or tight.  The names that are accepted are those of declarations; they are
tight, and two of them are equal when they have the same segments or lead to the same node of a
tree. -/
theorem Text.split_inverts_join :
  (∀ (sep : String) (c : Char), sep.toList = [c] →
      (∀ xs : List String, (∀ x ∈ xs, x ≠ "" ∧ c ∉ x.toList) → split (join sep xs) sep = .ok xs)
      ∧ ∀ s, ∃ xs, split s sep = .ok xs ∧ (join sep xs = s ↔ s = "" ∨ IsTight c s))
    ∧ (∀ name, (∃ n, Declaration.checkName name = .ok n) ↔ ∃ d : Declaration, d.name = name)
    ∧ ∀ name, (∃ n, Declaration.checkName name = .ok n) →
      IsTight '.' name
      ∧ (∃ xs, split name "." = .ok xs ∧ join "." xs = name)
      ∧ ∀ other, (∃ n, Declaration.checkName other = .ok n) →
        (split name "." = split other "." → name = other)
        ∧ ∀ calls n, (Tree.afterInsertions calls).node? name = some n →
          (Tree.afterInsertions calls).node? other = some n → name = other
  := by
  refine ⟨?_, fun name => Declaration.checkName_eq_ok_iff, ?_⟩
  · intro sep c hsep
    constructor
    · intro xs hxs
      rw [split_eq_segmentsOn hsep, segmentsOn_join hsep hxs]
    · intro s
      exact ⟨_, split_eq_segmentsOn hsep s, join_segmentsOn_eq_iff hsep⟩
  · intro name hname
    obtain ⟨d, rfl⟩ := Declaration.checkName_eq_ok_iff.mp hname
    refine ⟨d.isTight_name, ⟨_, split_eq_segmentsOn toList_dot d.name, d.join_segments⟩, ?_⟩
    intro other hother
    obtain ⟨e, rfl⟩ := Declaration.checkName_eq_ok_iff.mp hother
    constructor
    · intro h
      rw [split_eq_segmentsOn toList_dot, split_eq_segmentsOn toList_dot] at h
      exact Declaration.segments_inj.mp (Except.ok.inj h)
    · intro calls n hd he
      have h := (Tree.stores_inserted calls).1
      rw [← h.fullName_of_node? hd, h.fullName_of_node? he]

/-- Slashed paths with a dot in a segment are given back; a doubled slash is lost. -/
theorem Text.split_inverts_join_slashes :
  "/".toList = ['/'] ∧ split (join "/" ["srv", "v1.2"]) "/" = .ok ["srv", "v1.2"]
    ∧ (∃ xs, split "srv//v1" "/" = .ok xs ∧ join "/" xs ≠ "srv//v1")
    ∧ (∃ n, Declaration.checkName "srv.Ping" = .ok n)
    ∧ ∃ xs, split "srv.Ping" "." = .ok xs ∧ join "." xs = "srv.Ping"
  := by
  obtain ⟨hinverse, -, hnames⟩ := split_inverts_join
  obtain ⟨hsplit, hjoin⟩ := hinverse "/" '/' toList_slash
  have hname : ∃ n, Declaration.checkName "srv.Ping" = .ok n :=
    ⟨⟨"srv.Ping", by decide, by decide⟩, by decide⟩
  refine ⟨toList_slash, hsplit _ (by decide), ?_, hname, (hnames _ hname).2.1⟩
  obtain ⟨xs, hxs, hiff⟩ := hjoin "srv//v1"
  refine ⟨xs, hxs, mt hiff.mp ?_⟩
  rintro (h | htight)
  · exact absurd h (by decide)
  · apply htight.not_doubled
    decide

end MessagePlacement
