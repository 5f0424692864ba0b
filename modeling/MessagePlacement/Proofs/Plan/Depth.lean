import Mathlib.Order.Bounds.Basic
import MessagePlacement.Proofs.Plan.Level
import MessagePlacement.Proofs.Tree.Contents

/-!
# The depth of folding

Where a message is folded, told from the declarations alone.  `IsFoldLevel ds path` holds of
the namespaces at which messages are folded, and `IsFoldDepth ds segments k` of the length
`k` of the shortest front of `segments` that is one.  The placements of the plan of a tree
that holds `ds` are the ones of its members at their fold depths.  For a message in a
namespace the fold depth is the least `k` for which the first `k` of its segments directly
contain a message.
-/

namespace MessagePlacement

/-! ### Fold levels of declarations -/

/-- Messages are folded at a path when no name goes on below it, or when some name goes on by
exactly one segment. -/
def IsFoldLevel (ds : List Declaration) (path : List String) : Prop :=
  (∀ e ∈ ds, path <+: e.segments → e.segments = path)
    ∨ ∃ e ∈ ds, path <+: e.segments ∧ e.segments.length = path.length + 1

/-- `IsFoldDepth ds segments k`: the first fold level on the way along `segments` is `k`
segments deep. -/
structure IsFoldDepth (ds : List Declaration) (segments : List String) (k : Nat) : Prop where
  pos : 1 ≤ k
  le : k ≤ segments.length
  level : IsFoldLevel ds (segments.take k)
  first (j : Nat) : 1 ≤ j → j < k → ¬ IsFoldLevel ds (segments.take j)

theorem IsFoldDepth.unique {ds : List Declaration} {segments : List String} {k l : Nat}
    (hk : IsFoldDepth ds segments k) (hl : IsFoldDepth ds segments l) :
  k = l
  := by
  rcases Nat.lt_trichotomy k l with h | h | h
  · exact absurd hk.level (hl.first k hk.pos h)
  · apply h
  · exact absurd hl.level (hk.first l hl.pos h)

/-- The depth of folding depends on the front of a path that it reaches only. -/
theorem isFoldDepth_append_iff {ds : List Declaration} {path rest : List String} :
  IsFoldDepth ds (path ++ rest) path.length ↔ IsFoldDepth ds path path.length
  := by
  have htake : ∀ j ≤ path.length, (path ++ rest).take j = path.take j :=
    fun j hj => List.take_append_of_le_length hj
  constructor
  · rintro ⟨hpos, -, hlevel, hfirst⟩
    rw [htake _ (Nat.le_refl _)] at hlevel
    refine ⟨hpos, Nat.le_refl _, hlevel, ?_⟩
    intro j hj hlt
    rw [← htake j (Nat.le_of_lt hlt)]
    apply hfirst j hj hlt
  · rintro ⟨hpos, -, hlevel, hfirst⟩
    rw [← htake _ (Nat.le_refl _)] at hlevel
    refine ⟨hpos, by simp, hlevel, ?_⟩
    intro j hj hlt
    rw [htake j (Nat.le_of_lt hlt)]
    apply hfirst j hj hlt

/-- The placement of a message that is folded at depth `k`. -/
def Declaration.placementAt (d : Declaration) (k : Nat) : Placement :=
  ⟨d.id, Text.join "." (d.segments.drop (k - 1)).dropLast, (d.segments.drop (k - 1)).headD ""⟩

/-- `Tabulates ds field l`: the list `l` has for every id that is folded a field of the placement
of its declaration at the fold depth. -/
def Tabulates (ds : List Declaration) (field : Placement → String) (l : List (Int × String)) :
    Prop :=
  ∀ i v, l.lookup i = some v
    ↔ ∃ d ∈ ds, ∃ k, IsFoldDepth ds d.segments k ∧ d.id = i ∧ field (d.placementAt k) = v

theorem Declaration.placementAt_eq {d : Declaration} {path rest : List String} {s : String}
    (h : d.segments = path ++ [s] ++ rest) :
  d.placementAt (path ++ [s]).length = ⟨d.id, Text.join "." (s :: rest).dropLast, s⟩
  := by
  have hdrop : d.segments.drop ((path ++ [s]).length - 1) = s :: rest := by
    rw [h, List.length_append, List.length_singleton, Nat.add_sub_cancel, List.append_assoc]
    apply List.drop_left
  rw [placementAt, hdrop]
  rfl

namespace Node

/-! ### Placements of a located node -/

/-- The name of the parent taken off the front of a name, and the last segment off its end,
leave what is between them. -/
theorem foldedPath_join {path rest : List String} (hrest : rest ≠ [])
    (h : ∀ s ∈ path ++ rest, Text.IsSegment '.' s) :
  foldedPath (Text.join "." path) (Text.join "." (path ++ rest)) = Text.join "." rest.dropLast
  := by
  have hrestSegment : ∀ s ∈ rest, Text.IsSegment '.' s :=
    fun s hs => h s (List.mem_append_right _ hs)
  rcases eq_or_ne path [] with rfl | hpath
  · rw [foldedPath, List.nil_append]
    change Text.join "." (Text.segments (Text.join "." rest)).dropLast = _
    rw [Text.segments_join hrestSegment]
  · have hne : Text.join "." path ≠ "" := by
      rw [Ne, Text.join_eq_empty_iff (fun s hs => (h s (List.mem_append_left _ hs)).1)]
      apply hpath
    have hdrop := Text.segments_dropStart? hpath hrest hrestSegment
    obtain ⟨relative, hrelative, hsegments⟩ := Option.map_eq_some_iff.mp hdrop
    simp only [foldedPath, if_neg hne, hrelative, Option.getD_some, hsegments]

/-- What is folded at a node gets the way down from it as its path, and its name as group. -/
theorem Located.placements_eq {path : List String} {s : String} {m : Node}
    (h : Located (path ++ [s]) m) :
  m.placements = m.contents.map fun e => ⟨e.2.id, Text.join "." (s :: e.1).dropLast, m.name⟩
  := by
  rw [placements, h.flatten_eq_map_contents, List.map_map]
  apply List.map_congr_left
  rintro ⟨q, d⟩ hmem
  obtain ⟨b, hb, -⟩ := Option.bind_eq_some_iff.mp (h.mem_contents.mp hmem)
  have hsegment := (h.descend? hb).isSegment
  rw [List.append_assoc, List.singleton_append] at hsegment
  rw [Function.comp_apply, h.parentName_eq, List.append_assoc, List.singleton_append,
    foldedPath_join (List.cons_ne_nil s q) hsegment]

theorem Located.mem_placements {path : List String} {s : String} {m : Node}
    (h : Located (path ++ [s]) m) {e : Placement} :
  e ∈ m.placements
    ↔ ∃ q d, m.payloadAt q = some d ∧ e = ⟨d.id, Text.join "." (s :: q).dropLast, m.name⟩
  := by
  rw [h.placements_eq, List.mem_map]
  constructor
  · rintro ⟨⟨q, d⟩, hmem, rfl⟩
    exact ⟨q, d, h.mem_contents.mp hmem, rfl⟩
  · rintro ⟨q, d, hq, rfl⟩
    exact ⟨(q, d), h.mem_contents.mpr hq, rfl⟩

end Node

namespace Tree.Holds

variable {t : Tree} {ds : List Declaration}

/-! ### The fold levels of a tree -/

/-- The node at a path is a fold level when the path is one of the declarations. -/
theorem isFoldLevel_iff (h : t.Holds ds) {path : List String} {m : Node}
    (hm : t.root.descend? path = some m) :
  m.isFoldLevel = true ↔ IsFoldLevel ds path
  := by
  have hlocated := h.located.descend? hm
  have hpayload : ∀ q d, m.payloadAt q = some d ↔ d ∈ ds ∧ d.segments = path ++ q := by
    intro q d
    rw [← Node.payloadAt_append hm, h.payloadAt_iff]
  rw [Node.isFoldLevel, Bool.or_eq_true, hlocated.isLeaf_iff, hlocated.hasPayloadChild_iff,
    IsFoldLevel]
  apply or_congr
  · constructor
    · rintro hleaf e he ⟨q, hq⟩
      rw [← hq, hleaf q e ((hpayload q e).mpr ⟨he, hq.symm⟩), List.append_nil]
    · intro hend q d hd
      obtain ⟨hmem, hsegments⟩ := (hpayload q d).mp hd
      have heq := hend d hmem ⟨q, hsegments.symm⟩
      rw [hsegments] at heq
      apply List.append_right_eq_self.mp heq
  · constructor
    · rintro ⟨s, d, hd⟩
      obtain ⟨hmem, hsegments⟩ := (hpayload [s] d).mp hd
      refine ⟨d, hmem, ⟨[s], hsegments.symm⟩, ?_⟩
      rw [hsegments, List.length_append, List.length_singleton]
    · rintro ⟨e, he, ⟨q, hq⟩, hlength⟩
      rw [← hq, List.length_append, Nat.add_left_cancel_iff] at hlength
      obtain ⟨s, rfl⟩ := List.length_eq_one_iff.mp hlength
      use s, e
      exact (hpayload [s] e).mpr ⟨he, hq.symm⟩

/-- The search in a tree ends at the nodes whose paths are fold levels of the declarations
while no shorter front of them is one. -/
theorem mem_foldLevels_iff (h : t.Holds ds) {m : Node} :
  m ∈ Node.foldLevels t.root.sortedChildren
    ↔ ∃ path, path ≠ [] ∧ t.root.descend? path = some m ∧ IsFoldDepth ds path path.length
  := by
  rw [Node.mem_foldLevels]
  constructor
  · rintro ⟨c, hc, q, hfolded⟩
    have hmem := Node.mem_sortedChildren.mp hc
    obtain ⟨hq, hfold, hpassed⟩ := (h.located.child hmem).foldedAt_iff.mp hfolded
    rw [← h.located.descend?_name hmem] at hq
    use c.name :: q, List.cons_ne_nil _ _, hq
    constructor
    · apply Nat.succ_pos _
    · apply Nat.le_refl _
    · rw [List.take_length]
      exact (h.isFoldLevel_iff hq).mp hfold
    · intro j hpos hj
      obtain ⟨j, rfl⟩ := Nat.exists_eq_add_of_le' hpos
      have hsplit : t.root.descend? ((c.name :: q).take (j + 1) ++ (c.name :: q).drop (j + 1))
          = some m := by
        rw [List.take_append_drop]
        apply hq
      rw [Node.descend?_append] at hsplit
      obtain ⟨b, hb, -⟩ := Option.bind_eq_some_iff.mp hsplit
      rw [← h.isFoldLevel_iff hb]
      rw [List.take_succ_cons, h.located.descend?_name hmem] at hb
      apply hpassed j (Nat.lt_of_succ_lt_succ hj) b hb
  · rintro ⟨path, hne, hm, hdepth⟩
    obtain ⟨s, q, rfl⟩ := List.exists_cons_of_ne_nil hne
    obtain ⟨c, hc, hcm⟩ := Option.bind_eq_some_iff.mp hm
    have hmem := Node.mem_of_child? hc
    use c, Node.mem_sortedChildren.mpr hmem, q
    rw [(h.located.child hmem).foldedAt_iff]
    refine ⟨hcm, ?_, ?_⟩
    · rw [h.isFoldLevel_iff hm, ← List.take_length (l := s :: q)]
      apply hdepth.level
    · intro j hj b hb
      have hroot : t.root.descend? ((s :: q).take (j + 1)) = some b := by
        rw [List.take_succ_cons, Node.descend?, hc]
        apply hb
      rw [h.isFoldLevel_iff hroot]
      apply hdepth.first (j + 1) (Nat.succ_pos j) (Nat.succ_lt_succ hj)

/-- A node is folded when its path is the first fold level on the way to it. -/
theorem mem_foldLevels_iff_of_descend? (h : t.Holds ds) {path : List String} {m : Node}
    (hm : t.root.descend? path = some m) :
  m ∈ Node.foldLevels t.root.sortedChildren ↔ IsFoldDepth ds path path.length
  := by
  rw [h.mem_foldLevels_iff]
  constructor
  · rintro ⟨q, -, hq, hdepth⟩
    have hm := (h.located.descend? hm).segments_fullName
    have hq := (h.located.descend? hq).segments_fullName
    obtain rfl : path = q := hm.symm.trans hq
    apply hdepth
  · intro hdepth
    exact ⟨path, List.ne_nil_of_length_pos hdepth.pos, hm, hdepth⟩

/-- The messages at and below the folded node of a path are the declarations whose names
continue the path and have their fold depth there. -/
theorem exists_folded_iff (h : t.Holds ds) {path q : List String} {d : Declaration} :
  (∃ m ∈ Node.foldLevels t.root.sortedChildren,
      t.root.descend? path = some m ∧ m.payloadAt q = some d)
    ↔ d ∈ ds ∧ d.segments = path ++ q ∧ IsFoldDepth ds d.segments path.length
  := by
  constructor
  · rintro ⟨m, hfold, hm, hq⟩
    rw [← Node.payloadAt_append hm, h.payloadAt_iff] at hq
    obtain ⟨hd, hsegments⟩ := hq
    refine ⟨hd, hsegments, ?_⟩
    rw [hsegments, isFoldDepth_append_iff]
    apply (h.mem_foldLevels_iff_of_descend? hm).mp hfold
  · rintro ⟨hd, hsegments, hdepth⟩
    have hpayload := (h.payloadAt_iff (path ++ q) d).mpr ⟨hd, hsegments⟩
    obtain ⟨m, hm⟩ := Node.exists_descend? hpayload
    rw [Node.payloadAt_append hm] at hpayload
    refine ⟨m, ?_, hm, hpayload⟩
    rw [h.mem_foldLevels_iff_of_descend? hm, ← isFoldDepth_append_iff, ← hsegments]
    apply hdepth

/-- The placements in the plan of a tree are those of its declarations at their fold
depths. -/
theorem mem_placements_iff (h : t.Holds ds) {e : Placement} :
  e ∈ (Node.foldLevels t.root.sortedChildren).flatMap Node.placements
    ↔ ∃ d ∈ ds, ∃ k, IsFoldDepth ds d.segments k ∧ e = d.placementAt k
  := by
  rw [List.mem_flatMap]
  constructor
  · rintro ⟨m, hfold, he⟩
    obtain ⟨path, hne, hm, -⟩ := h.mem_foldLevels_iff.mp hfold
    obtain ⟨path, s, rfl⟩ := (List.eq_nil_or_concat' path).resolve_left hne
    obtain ⟨q, d, hq, rfl⟩ := (h.located.descend? hm).mem_placements.mp he
    obtain ⟨hd, hsegments, hdepth⟩ := h.exists_folded_iff.mp ⟨m, hfold, hm, hq⟩
    use d, hd, (path ++ [s]).length, hdepth
    rw [Declaration.placementAt_eq hsegments, Node.name_of_descend? hm]
  · rintro ⟨d, hd, k, hdepth, rfl⟩
    obtain ⟨path, rest, hsegments, rfl⟩ :
        ∃ path rest, d.segments = path ++ rest ∧ path.length = k :=
      ⟨d.segments.take k, d.segments.drop k, (List.take_append_drop k _).symm,
        List.length_take_of_le hdepth.le⟩
    obtain ⟨m, hfold, hm, hrest⟩ := h.exists_folded_iff.mpr ⟨hd, hsegments, hdepth⟩
    have hne : path ≠ [] := List.ne_nil_of_length_pos hdepth.pos
    obtain ⟨path, s, rfl⟩ := (List.eq_nil_or_concat' path).resolve_left hne
    use m, hfold
    rw [(h.located.descend? hm).mem_placements]
    use rest, d, hrest
    rw [Declaration.placementAt_eq hsegments, Node.name_of_descend? hm]

/-! ### The plan of a tree -/

/-- With distinct ids, the placements of an id agree. -/
theorem eq_of_id_eq (h : t.Holds ds) (hid : (ds.map (·.id)).Nodup) :
  ∀ e ∈ (Node.foldLevels t.root.sortedChildren).flatMap Node.placements,
    ∀ f ∈ (Node.foldLevels t.root.sortedChildren).flatMap Node.placements, e.id = f.id → e = f
  := by
  intro e he f hf heq
  obtain ⟨d, hd, k, hk, rfl⟩ := h.mem_placements_iff.mp he
  obtain ⟨d', hd', l, hl, rfl⟩ := h.mem_placements_iff.mp hf
  obtain rfl := List.inj_on_of_nodup_map hid hd hd' heq
  rw [hk.unique hl]

/-- Some placement has a property exactly when some declaration at its fold depth has it. -/
theorem exists_placement_iff (h : t.Holds ds) (P : Placement → Prop) :
  (∃ e ∈ (Node.foldLevels t.root.sortedChildren).flatMap Node.placements, P e)
    ↔ ∃ d ∈ ds, ∃ k, IsFoldDepth ds d.segments k ∧ P (d.placementAt k)
  := by
  constructor
  · rintro ⟨e, he, hP⟩
    obtain ⟨d, hd, k, hk, rfl⟩ := h.mem_placements_iff.mp he
    exact ⟨d, hd, k, hk, hP⟩
  · rintro ⟨d, hd, k, hk, hP⟩
    exact ⟨_, h.mem_placements_iff.mpr ⟨d, hd, k, hk, rfl⟩, hP⟩

/-- The paths of the plan of a tree. -/
theorem tabulates_paths (h : t.Holds ds) (hid : (ds.map (·.id)).Nodup) :
  Tabulates ds Placement.path t.plan.paths
  := by
  intro i v
  rw [Tree.plan, Node.plan_eq_setAll, Plan.lookup_paths_setAll (h.eq_of_id_eq hid)]
  apply h.exists_placement_iff fun e => e.id = i ∧ e.path = v

/-- The groups of the plan of a tree. -/
theorem tabulates_groups (h : t.Holds ds) (hid : (ds.map (·.id)).Nodup) :
  Tabulates ds Placement.group t.plan.groups
  := by
  intro i v
  rw [Tree.plan, Node.plan_eq_setAll, Plan.lookup_groups_setAll (h.eq_of_id_eq hid)]
  apply h.exists_placement_iff fun e => e.id = i ∧ e.group = v

end Tree.Holds

end MessagePlacement
