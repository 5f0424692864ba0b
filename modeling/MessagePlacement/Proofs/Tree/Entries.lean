import MessagePlacement.Proofs.History
import MessagePlacement.Proofs.Lookup
import MessagePlacement.Proofs.Sorting
import MessagePlacement.Proofs.Tree.Insertion
import MessagePlacement.Proofs.Tree.Traversal

/-!
# The tree as a map

A tree is a map from lists of segments to declarations: `t.Stores entries` says that its
payloads are the `entries`, each at its path.  An insertion fails when the name has no segments
or its path is taken, and adds an entry otherwise.  There is a node at the fronts of the paths of
the entries and nowhere else, and there are as many payloads as entries.
-/

namespace MessagePlacement

namespace Node

/-! ### Payloads by path -/

/-- The payloads at and below a node with the paths to them. -/
def contents (n : Node) : List (List String × Declaration) :=
  n.walk.filterMap fun e => e.2.payload.map (e.1, ·)

theorem countPayloads_eq (n : Node) :
  n.countPayloads = n.contents.length
  := by
  simp [countPayloads, flatten, contents, List.length_filterMap_eq_countP]

variable {path : List String} {n m : Node}

theorem Located.mem_contents (h : Located path n) {q : List String} {d : Declaration} :
  (q, d) ∈ n.contents ↔ n.payloadAt q = some d
  := by
  rw [contents, List.mem_filterMap]
  constructor
  · rintro ⟨⟨q', m⟩, hwalk, hd⟩
    obtain ⟨e, he, hd⟩ := Option.map_eq_some_iff.mp hd
    obtain ⟨rfl, rfl⟩ := Prod.mk.inj hd
    rw [payloadAt, h.mem_walk.mp hwalk]
    apply he
  · intro hd
    obtain ⟨m, hm, hd⟩ := Option.bind_eq_some_iff.mp hd
    use (q, m), h.mem_walk.mpr hm
    simp [hd]

/-- The payloads at and below a located node stand in the increasing order of their paths. -/
theorem Located.pairwise_contents (h : Located path n) :
  n.contents.Pairwise fun e f => e.1 < f.1
  := by
  apply List.Pairwise.filterMap _ _ h.pairwise_walk
  intro e f hlt b hb c hc
  obtain ⟨_, -, rfl⟩ := Option.map_eq_some_iff.mp hb
  obtain ⟨_, -, rfl⟩ := Option.map_eq_some_iff.mp hc
  apply hlt

/-- A path has one payload at most. -/
theorem Located.nodup_contents (h : Located path n) :
  (n.contents.map Prod.fst).Nodup
  := nodup_of_pairwise_lt h.pairwise_contents

/-- The flattening of a located node is its payloads in order, each with its path from the root
joined by dots. -/
theorem Located.flatten_eq_map_contents (h : Located path n) :
  n.flatten = n.contents.map fun e => (Text.join "." (path ++ e.1), e.2)
  := by
  rw [flatten, contents, List.map_filterMap]
  apply List.filterMap_congr
  rintro ⟨q, m⟩ hwalk
  change m.payload.map (m.fullName, ·) = _
  rw [(h.descend? (h.mem_walk.mp hwalk)).fullName_eq, Option.map_map]
  rfl

/-- The flattening of a located node lists the payloads at or below it. -/
theorem Located.mem_flatten (h : Located path n) {fullName : String} {d : Declaration} :
  (fullName, d) ∈ n.flatten
    ↔ ∃ q, n.payloadAt q = some d ∧ fullName = Text.join "." (path ++ q)
  := by
  rw [h.flatten_eq_map_contents, List.mem_map]
  constructor
  · rintro ⟨⟨q, e⟩, he, heq⟩
    obtain ⟨rfl, rfl⟩ := Prod.mk.inj heq
    exact ⟨q, h.mem_contents.mp he, rfl⟩
  · rintro ⟨q, hq, rfl⟩
    exact ⟨(q, d), h.mem_contents.mpr hq, rfl⟩

/-- A node below another one is not empty. -/
theorem Located.occupied_of_descend? (h : Located path n) {q : List String} (hq : q ≠ [])
    (hm : n.descend? q = some m) :
  m.payload = none → m.children ≠ []
  := by
  obtain ⟨q, s, rfl⟩ := (List.eq_nil_or_concat' q).resolve_left hq
  rw [descend?_append] at hm
  obtain ⟨b, hb, hm⟩ := Option.bind_eq_some_iff.mp hm
  obtain ⟨c, hc, hm⟩ := Option.bind_eq_some_iff.mp hm
  obtain rfl := Option.some.inj hm
  apply (h.descend? hb).occupied (mem_of_child? hc)

/-- There is a node at the end of a path exactly when a payload is there or further on. -/
theorem Located.exists_descend?_iff (h : Located path n) {q : List String} (hq : q ≠ []) :
  (∃ m, n.descend? q = some m) ↔ ∃ rest d, n.payloadAt (q ++ rest) = some d
  := by
  constructor
  · rintro ⟨m, hm⟩
    obtain ⟨rest, d, hd⟩ := (h.descend? hm).exists_payloadAt (h.occupied_of_descend? hq hm)
    use rest, d
    rw [payloadAt_append hm]
    apply hd
  · rintro ⟨rest, d, hd⟩
    apply exists_descend? hd

/-- A segment is the name of a child of a located node exactly when a payload is below it. -/
theorem Located.mem_names_sortedChildren (h : Located path n) {s : String} :
  s ∈ n.sortedChildren.map name ↔ ∃ rest d, n.payloadAt ([s] ++ rest) = some d
  := by
  rw [← h.exists_descend?_iff (List.cons_ne_nil s []), List.mem_map]
  constructor
  · rintro ⟨c, hc, rfl⟩
    use c
    rw [h.descend?_name (mem_sortedChildren.mp hc)]
    rfl
  · rintro ⟨c, hc⟩
    obtain ⟨b, hb, hbc⟩ := Option.bind_eq_some_iff.mp hc
    obtain rfl := Option.some.inj hbc
    exact ⟨b, mem_sortedChildren.mpr (mem_of_child? hb), name_of_child? hb⟩

end Node

namespace Tree

/-! ### Entries -/

/-- `t.Stores entries`: the root is located and has no payload, and the payloads of the tree are
the entries, each at its path. -/
structure Stores (t : Tree) (entries : List (List String × Declaration)) : Prop where
  located : t.root.Located []
  root_not_mem : [] ∉ entries.map Prod.fst
  payloadAt_iff (path : List String) (d : Declaration) :
    t.root.payloadAt path = some d ↔ (path, d) ∈ entries

theorem stores_empty :
  empty.Stores []
  := by
  constructor
  · apply Node.Located.root
  · apply List.not_mem_nil
  · intro path d
    constructor
    · intro h
      rw [empty, Node.root, Node.payloadAt_new] at h
      cases h
    · intro h
      cases h

namespace Stores

variable {t : Tree} {entries : List (List String × Declaration)}

theorem payloadAt_eq_none_iff (h : t.Stores entries) {path : List String} :
  t.root.payloadAt path = none ↔ path ∉ entries.map Prod.fst
  := by
  rw [Option.eq_none_iff_forall_ne_some, List.mem_map]
  constructor
  · rintro hnone ⟨⟨path, d⟩, he, rfl⟩
    apply hnone d ((h.payloadAt_iff path d).mpr he)
  · intro hnew d hd
    apply hnew ⟨(path, d), (h.payloadAt_iff path d).mp hd, rfl⟩

/-- A declaration put at a new path is stored, and everything else as before. -/
theorem insert (h : t.Stores entries) (d : Declaration) {path : List String} (hne : path ≠ [])
    (hpath : ∀ s ∈ path, Text.IsSegment '.' s) (hnew : path ∉ entries.map Prod.fst) :
  ∃ root, t.root.insert d path = .ok root ∧ Stores ⟨root⟩ (entries ++ [(path, d)])
  := by
  obtain ⟨root, hroot, hq⟩ :=
    Node.insert_of_payloadAt_eq_none d path t.root (h.payloadAt_eq_none_iff.mpr hnew)
  use root, hroot
  constructor
  · apply (h.located.insert hpath hroot).1
  · rw [List.map_append, List.mem_append, not_or]
    exact ⟨h.root_not_mem, by simpa using hne⟩
  · intro q e
    rw [hq, List.mem_append, List.mem_singleton, Prod.mk.injEq]
    by_cases heq : q = path
    · subst heq
      rw [if_pos rfl, Option.some_inj]
      constructor
      · rintro rfl
        exact .inr ⟨rfl, rfl⟩
      · rintro (he | ⟨-, rfl⟩)
        · exact absurd (List.mem_map_of_mem he) hnew
        · rfl
    · rw [if_neg heq, h.payloadAt_iff]
      simp [heq]

/-! ### One insertion -/

/-- What an insertion in place does: it fails without segments and where a declaration is in
place, and leaves the tree as it was; otherwise the declaration is stored. -/
theorem insertion (h : t.Stores entries) (name : String) (d : Declaration) :
  (Text.segments name = [] ∧ (Tree.insertion name d).outcome t = .error .emptyName
      ∧ (Tree.insertion name d).stateAfter t = t)
    ∨ (Text.segments name ≠ [] ∧ ∃ e, (Text.segments name, e) ∈ entries
        ∧ (Tree.insertion name d).outcome t = .error (.duplicate name d.id e.id)
        ∧ (Tree.insertion name d).stateAfter t = t)
    ∨ (Text.segments name ≠ [] ∧ Text.segments name ∉ entries.map Prod.fst
        ∧ ∃ n, (Tree.insertion name d).outcome t = .ok n
          ∧ ((Tree.insertion name d).stateAfter t).Stores
              (entries ++ [(Text.segments name, d)]))
  := by
  have hrun := insertion_run t name d
  by_cases hnil : Text.segments name = []
  · left
    rw [Tree.insert, hnil] at hrun
    exact ⟨hnil, Attempt.outcome_of_error hrun⟩
  · right
    rw [Tree.insert_of_ne_nil hnil] at hrun
    by_cases hnew : Text.segments name ∈ entries.map Prod.fst
    · left
      obtain ⟨⟨path, e⟩, he, rfl⟩ := List.mem_map.mp hnew
      rw [Node.insert_of_payloadAt_eq_some d _ _ ((h.payloadAt_iff _ e).mpr he)] at hrun
      exact ⟨hnil, e, he, Attempt.outcome_of_error hrun⟩
    · right
      have hpath : ∀ s ∈ Text.segments name, Text.IsSegment '.' s :=
        fun s hs => Text.isSegment_of_mem_segmentsOn Text.toList_dot hs
      obtain ⟨root, hroot, hstores⟩ := h.insert d hnil hpath hnew
      rw [hroot] at hrun
      obtain ⟨houtcome, hstate⟩ := Attempt.outcome_of_ok hrun
      refine ⟨hnil, hnew, root.reach (Text.segments name), houtcome, ?_⟩
      rw [hstate]
      apply hstores

/-! ### Looking up -/

/-- There is no node at a name exactly when it has segments and is at the front of no path. -/
theorem node?_eq_none_iff (h : t.Stores entries) (name : String) :
  t.node? name = none
    ↔ Text.segments name ≠ [] ∧ ∀ e ∈ entries, ¬ Text.segments name <+: e.1
  := by
  rw [node?, Option.eq_none_iff_forall_ne_some]
  constructor
  · intro hnone
    have hnil : Text.segments name ≠ [] := by
      intro hnil
      apply hnone t.root
      rw [hnil]
      rfl
    refine ⟨hnil, ?_⟩
    rintro ⟨_, d⟩ he ⟨rest, rfl⟩
    obtain ⟨m, hm⟩ := Node.exists_descend? ((h.payloadAt_iff _ d).mpr he)
    apply hnone m hm
  · rintro ⟨hnil, hfront⟩ m hm
    obtain ⟨rest, d, hd⟩ := (h.located.exists_descend?_iff hnil).mp ⟨m, hm⟩
    apply hfront _ ((h.payloadAt_iff _ d).mp hd)
    apply List.prefix_append

/-- With distinct paths, the payload of the node at a name is the entry at its segments. -/
theorem payload_node? (h : t.Stores entries) (hnodup : (entries.map Prod.fst).Nodup)
    {name : String} {n : Node} (hn : t.node? name = some n) :
  n.payload = entries.lookup (Text.segments name)
  := by
  have hpayload : n.payload = t.root.payloadAt (Text.segments name) := by
    rw [Node.payloadAt, ← node?, hn]
    rfl
  rw [hpayload]
  apply Option.ext
  intro d
  rw [h.payloadAt_iff, lookup_eq_some_iff_mem hnodup]

/-- There are as many payloads as entries, if their paths are distinct. -/
theorem size_eq (h : t.Stores entries) (hnodup : (entries.map Prod.fst).Nodup) :
  t.size = entries.length
  := by
  have hperm : t.root.contents.Perm entries := by
    rw [List.perm_ext_iff_of_nodup h.located.nodup_contents.of_map hnodup.of_map]
    rintro ⟨path, d⟩
    rw [h.located.mem_contents, h.payloadAt_iff]
  rw [size, Node.countPayloads_eq, hperm.length_eq]

end Stores

/-! ### Insertions one after another -/

/-- What has been inserted by the successful ones of some insertions, with the segments of its
name. -/
def entriesOf (past : List ((String × Declaration) × Except LayoutError Node)) :
    List (List String × Declaration) :=
  past.filterMap fun e => e.2.toOption.map fun _ => (Text.segments e.1.1, e.1.2)

theorem entriesOf_concat_error (past : List ((String × Declaration) × Except LayoutError Node))
    (call : String × Declaration) (e : LayoutError) :
  entriesOf (past ++ [(call, .error e)]) = entriesOf past
  := by
  rw [entriesOf, List.filterMap_append]
  apply List.append_nil

theorem entriesOf_concat_ok (past : List ((String × Declaration) × Except LayoutError Node))
    (call : String × Declaration) (n : Node) :
  entriesOf (past ++ [(call, .ok n)]) = entriesOf past ++ [(Text.segments call.1, call.2)]
  := List.filterMap_append

/-- The tree that insertions leave behind, made one after another on the empty tree. -/
def afterInsertions (calls : List (String × Declaration)) : Tree :=
  Attempt.stateAfterAll (fun c => insertion c.1 c.2) empty calls

/-- What insertions have inserted, made one after another on the empty tree. -/
def inserted (calls : List (String × Declaration)) : List (List String × Declaration) :=
  entriesOf (Attempt.history (fun c => insertion c.1 c.2) empty calls)

/-- The tree stores what has been inserted, at distinct paths. -/
theorem stores_inserted (calls : List (String × Declaration)) :
  (afterInsertions calls).Stores (inserted calls) ∧ ((inserted calls).map Prod.fst).Nodup
  := by
  apply Attempt.history_induction
    (P := fun past (t : Tree) => t.Stores (entriesOf past) ∧ ((entriesOf past).map Prod.fst).Nodup)
  · exact ⟨stores_empty, List.nodup_nil⟩
  · rintro past t ⟨name, d⟩ ⟨h, hnodup⟩
    rcases h.insertion name d with
      ⟨-, houtcome, hstate⟩ | ⟨-, e, -, houtcome, hstate⟩ | ⟨-, hnew, n, houtcome, hstores⟩
    · rw [houtcome, hstate, entriesOf_concat_error]
      exact ⟨h, hnodup⟩
    · rw [houtcome, hstate, entriesOf_concat_error]
      exact ⟨h, hnodup⟩
    · rw [houtcome, entriesOf_concat_ok]
      refine ⟨hstores, ?_⟩
      rw [List.map_append, List.map_singleton, ← List.concat_eq_append, List.nodup_concat]
      exact ⟨hnew, hnodup⟩

/-- After any insertions, the next one fails exactly when its name has no segments or they are
those of a name inserted before, and then leaves the tree as it was; the tree has nodes exactly
at the fronts of what has been inserted, with the payload that was inserted there, and as many
payloads as insertions have succeeded. -/
theorem insertions_refine_map (calls : List (String × Declaration)) :
  (∀ name d,
      ((insertion name d).outcome (afterInsertions calls) = .error .emptyName
          ↔ Text.segments name = [])
      ∧ ((∃ other id existing, (insertion name d).outcome (afterInsertions calls)
              = .error (.duplicate other id existing))
          ↔ Text.segments name ∈ (inserted calls).map Prod.fst)
      ∧ (∀ e, (Text.segments name, e) ∈ inserted calls →
          (insertion name d).outcome (afterInsertions calls) = .error (.duplicate name d.id e.id))
      ∧ ((∃ n, (insertion name d).outcome (afterInsertions calls) = .ok n)
          ↔ Text.segments name ≠ [] ∧ Text.segments name ∉ (inserted calls).map Prod.fst)
      ∧ ∀ e, (insertion name d).outcome (afterInsertions calls) = .error e →
          (insertion name d).stateAfter (afterInsertions calls) = afterInsertions calls)
    ∧ ((inserted calls).map Prod.fst).Nodup
    ∧ (∀ name, (afterInsertions calls).node? name = none
        ↔ Text.segments name ≠ [] ∧ ∀ e ∈ inserted calls, ¬ Text.segments name <+: e.1)
    ∧ (∀ name n, (afterInsertions calls).node? name = some n →
        n.payload = (inserted calls).lookup (Text.segments name))
    ∧ (afterInsertions calls).size = (inserted calls).length
  := by
  obtain ⟨h, hnodup⟩ := stores_inserted calls
  refine ⟨?_, hnodup, h.node?_eq_none_iff, fun name n => h.payload_node? hnodup, h.size_eq hnodup⟩
  intro name d
  rcases h.insertion name d with
    ⟨hnil, houtcome, hstate⟩ | ⟨hnil, e, he, houtcome, hstate⟩ | ⟨hnil, hnew, n, houtcome, -⟩
  · have hnew := h.root_not_mem
    rw [← hnil] at hnew
    rw [houtcome, hstate]
    refine ⟨by simp [hnil], by simp [hnew], ?_, by simp [hnil], fun _ _ => rfl⟩
    intro e he
    exact absurd (List.mem_map_of_mem he) hnew
  · have hmem := List.mem_map_of_mem (f := Prod.fst) he
    rw [houtcome, hstate]
    refine ⟨by simp [hnil], by simp [hmem], ?_, by simp [hmem], fun _ _ => rfl⟩
    intro e' he'
    have heq := List.inj_on_of_nodup_map hnodup he he' rfl
    rw [(Prod.mk.inj heq).2]
  · rw [houtcome]
    refine ⟨by simp [hnil], by simp [hnew], ?_, by simp [hnil, hnew], ?_⟩
    · intro e he
      exact absurd (List.mem_map_of_mem he) hnew
    · intro e he
      cases he

/-- A message of a namespace. -/
def spelledMessage : Declaration :=
  ⟨41, "u.v", none, by decide, by decide, by decide, by decide⟩

/-- Insertions of one message at two spellings of its name, and at a name without segments. -/
def spellings : List (String × Declaration) :=
  [("u.v", spelledMessage), ("u..v", spelledMessage), (".", spelledMessage)]

theorem insertions_refine_map_spellings :
  inserted spellings = [(["u", "v"], spelledMessage)]
    ∧ (insertion ".u.v" spelledMessage).outcome (afterInsertions spellings)
        = .error (.duplicate ".u.v" 41 41)
    ∧ (afterInsertions spellings).node? "v" = none
    ∧ (afterInsertions spellings).size = 1
  := by
  have hinserted : inserted spellings = [(["u", "v"], spelledMessage)] := by decide
  obtain ⟨hinsertion, -, hnone, -, hsize⟩ := insertions_refine_map spellings
  rw [hinserted] at hnone hsize
  refine ⟨hinserted, ?_, (hnone "v").mpr (by decide), hsize⟩
  apply (hinsertion ".u.v" spelledMessage).2.2.1 spelledMessage
  rw [hinserted]
  decide

end Tree

end MessagePlacement
