import MessagePlacement.Proofs.Tree.Entries

/-!
# The structure of trees

What insertions keep true of a whole tree.  `Reaches n path m` says that the names in `path`
lead from `n` through children to `m`, so that `Reaches t.root` holds of the nodes of a tree and
their paths.  In a tree that is `WellFormed` the root is empty, the names of children are keys,
full names are the paths joined by dots, nodes without children carry payloads, and what the
planner and the lookup do with a full name agrees with the place of its node.
-/

namespace MessagePlacement

namespace Node

/-- `Reaches n path m`: the names in `path` lead from `n` through children to `m`. -/
inductive Reaches : Node → List String → Node → Prop where
  | here (n : Node) : Reaches n [] n
  | step {n c m : Node} {path : List String} : c ∈ n.children → Reaches c path m →
      Reaches n (c.name :: path) m

/-- From a located node, the names in a path lead to the node that is looked up along it. -/
theorem Located.reaches_iff {path q : List String} {n m : Node} (h : Located path n) :
  Reaches n q m ↔ n.descend? q = some m
  := by
  constructor
  · intro hreaches
    induction hreaches generalizing path with
    | here n => rfl
    | step hc _ ih =>
        rw [h.descend?_name hc]
        apply ih (h.child hc)
  · intro hm
    induction q generalizing n path with
    | nil =>
        obtain rfl := Option.some.inj hm
        apply Reaches.here
    | cons s q ih =>
        obtain ⟨c, hc, hcm⟩ := Option.bind_eq_some_iff.mp hm
        obtain rfl := name_of_child? hc
        apply Reaches.step (mem_of_child? hc)
        apply ih (h.child (mem_of_child? hc)) hcm

end Node

namespace Tree

/-- `t.WellFormed`: the structure that a tree has after any insertions. -/
structure WellFormed (t : Tree) : Prop where
  root_name : t.root.name = ""
  root_fullName : t.root.fullName = ""
  root_payload : t.root.payload = none
  nodup_names {path : List String} {n : Node} : t.root.Reaches path n →
    (n.children.map Node.name).Nodup
  child?_eq_some_iff {path : List String} {n c : Node} {s : String} : t.root.Reaches path n →
    (n.child? s = some c ↔ c ∈ n.children ∧ c.name = s)
  isSegment_name {path : List String} {n c : Node} : t.root.Reaches path n → c ∈ n.children →
    Text.IsSegment '.' c.name
  fullName_eq {path : List String} {n : Node} : t.root.Reaches path n →
    n.fullName = Text.join "." path
  payload_ne_none {path : List String} {n : Node} : t.root.Reaches path n → path ≠ [] →
    n.children = [] → n.payload ≠ none
  segments_fullName {path : List String} {n : Node} : t.root.Reaches path n →
    Text.segments n.fullName = path
  node?_fullName {path : List String} {n : Node} : t.root.Reaches path n →
    t.node? n.fullName = some n
  parentName_eq {path : List String} {n c : Node} : t.root.Reaches path n → c ∈ n.children →
    c.parentName = n.fullName

/-- A tree with a nameless root that stores entries is well-formed. -/
theorem Stores.wellFormed {t : Tree} {entries : List (List String × Declaration)}
    (h : t.Stores entries) (hname : t.root.name = "") :
  t.WellFormed
  := by
  have hdescend : ∀ {path n}, t.root.Reaches path n → t.root.descend? path = some n :=
    h.located.reaches_iff.mp
  have hlocated : ∀ {path n}, t.root.Reaches path n → n.Located path :=
    fun hn => h.located.descend? (hdescend hn)
  constructor
  · apply hname
  · apply h.located.fullName_eq
  · apply h.payloadAt_eq_none_iff.mpr h.root_not_mem
  · intro path n hn
    apply (hlocated hn).nodup
  · intro path n c s hn
    constructor
    · intro hc
      exact ⟨Node.mem_of_child? hc, Node.name_of_child? hc⟩
    · rintro ⟨hc, rfl⟩
      apply (hlocated hn).child?_name hc
  · intro path n c hn hc
    apply ((hlocated hn).child hc).isSegment
    apply List.mem_append_right _ (List.mem_singleton_self c.name)
  · intro path n hn
    apply (hlocated hn).fullName_eq
  · intro path n hn hpath hchildren hpayload
    apply h.located.occupied_of_descend? hpath (hdescend hn) hpayload hchildren
  · intro path n hn
    apply (hlocated hn).segments_fullName
  · intro path n hn
    rw [node?, (hlocated hn).segments_fullName]
    apply hdescend hn
  · intro path n c hn hc
    rw [((hlocated hn).child hc).parentName_eq, (hlocated hn).fullName_eq]

theorem name_root_insert {t u : Tree} {name : String} {d : Declaration}
    (h : t.insert name d = .ok u) :
  u.root.name = t.root.name
  := by
  by_cases hnil : Text.segments name = []
  · rw [insert, hnil] at h
    cases h
  · rw [insert_of_ne_nil hnil] at h
    cases hroot : t.root.insert d (Text.segments name) with
    | error e =>
        rw [hroot] at h
        cases h
    | ok root =>
        rw [hroot] at h
        obtain rfl := Except.ok.inj h
        apply Node.name_insert hroot

/-- No insertion gives the root another name. -/
theorem name_root_stateAfter_insertion (t : Tree) (name : String) (d : Declaration) :
  ((insertion name d).stateAfter t).root.name = t.root.name
  := by
  have hrun := insertion_run t name d
  cases hinsert : t.insert name d with
  | error e =>
      rw [hinsert] at hrun
      rw [(Attempt.outcome_of_error hrun).2]
  | ok u =>
      rw [hinsert] at hrun
      rw [(Attempt.outcome_of_ok hrun).2]
      apply name_root_insert hinsert

/-- After any insertions, whether or not they have succeeded, the tree is well-formed. -/
theorem insertions_wellFormed (calls : List (String × Declaration)) :
  (afterInsertions calls).WellFormed
  := by
  have hname : (afterInsertions calls).root.name = "" := by
    apply Attempt.history_induction (P := fun _ (t : Tree) => t.root.name = "")
    · rfl
    · rintro past t ⟨name, d⟩ ht
      rw [name_root_stateAfter_insertion]
      apply ht
  apply (stores_inserted calls).1.wellFormed hname

end Tree

end MessagePlacement
