import MessagePlacement.Proofs.Tree.Location

/-!
# Insertion in place

The insertion of a declaration makes the nodes along its name before it looks for a declaration
at their end.  If there is one, all these nodes were there before, so that nothing has changed;
otherwise the tree becomes the one in which `Tree.insert` puts the declaration.
-/

namespace MessagePlacement

namespace Node

variable {n m : Node} {path : List String}

/-! ### Nodes that are there -/

/-- The payload along a path, which a new node does not have. -/
theorem payload_reach (path : List String) (n : Node) :
  (n.reach path).payload = n.payloadAt path
  := by
  induction path generalizing n with
  | nil => rfl
  | cons s path ih => rw [reach, ih, payloadAt_cons]

theorem replaceOrAppend_of_find? {c : Node} {ns : List Node} {s : String}
    (h : ns.find? (·.name == s) = some c) :
  replaceOrAppend c ns = ns
  := by
  induction ns with
  | nil => cases h
  | cons n ns ih =>
      have hc : c.name = s := by simpa using List.find?_some h
      rw [List.find?_cons] at h
      rw [replaceOrAppend, hc]
      split at h
      · rename_i hn
        rw [if_pos hn, Option.some.inj h]
      · rename_i hn
        rw [if_neg (by simp [hn]), ih h]

theorem setChild_of_child? {c : Node} {s : String} (h : n.child? s = some c) :
  n.setChild c = n
  := by
  obtain ⟨name, fullName, payload, children⟩ := n
  rw [setChild]
  congr
  apply replaceOrAppend_of_find? h

/-- Making nodes that are there changes nothing. -/
theorem modify_id_of_descend? (h : n.descend? path = some m) :
  n.modify id path = n
  := by
  induction path generalizing n with
  | nil => rfl
  | cons s path ih =>
      obtain ⟨c, hc, hm⟩ := Option.bind_eq_some_iff.mp h
      have hchild : n.childOrNew s = c := by
        rw [childOrNew, hc]
        rfl
      rw [modify, hchild, ih hm]
      apply setChild_of_child? hc

/-! ### Changes one after another -/

variable {f : Node → Node}

theorem name_modify (hf : ∀ n, (f n).name = n.name) (path : List String) (n : Node) :
  (n.modify f path).name = n.name
  := by
  cases path with
  | nil => apply hf
  | cons s path => rfl

theorem replaceOrAppend_replaceOrAppend {c d : Node} (h : d.name = c.name) (ns : List Node) :
  replaceOrAppend d (replaceOrAppend c ns) = replaceOrAppend d ns
  := by
  induction ns with
  | nil => simp [replaceOrAppend, h]
  | cons n ns ih =>
      by_cases hn : n.name = c.name
      · simp [replaceOrAppend, h, hn]
      · simp [replaceOrAppend, h, hn, ih]

theorem setChild_setChild {c d : Node} (h : d.name = c.name) (n : Node) :
  (n.setChild c).setChild d = n.setChild d
  := by
  change mk _ _ _ (replaceOrAppend d (replaceOrAppend c n.children)) = _
  rw [replaceOrAppend_replaceOrAppend h]
  rfl

/-- Before a change at the end of a path, the nodes along it can be made first. -/
theorem modify_modify_id (hf : ∀ n, (f n).name = n.name) (path : List String) (n : Node) :
  (n.modify id path).modify f path = n.modify f path
  := by
  induction path generalizing n with
  | nil => rfl
  | cons s path ih =>
      have hname : ((n.childOrNew s).modify id path).name = s := by
        rw [name_modify (f := id) (fun _ => rfl), name_childOrNew]
      rw [modify, modify, modify, childOrNew_setChild, if_pos hname.symm, ih,
        setChild_setChild]
      rw [name_modify hf, name_childOrNew, hname]

/-- What is at the end of a path after a change there. -/
theorem reach_modify (hf : ∀ n, (f n).name = n.name) (path : List String) (n : Node) :
  (n.modify f path).reach path = f (n.reach path)
  := by
  induction path generalizing n with
  | nil => rfl
  | cons s path ih =>
      have hname : ((n.childOrNew s).modify f path).name = s := by
        rw [name_modify hf, name_childOrNew]
      rw [modify, reach, childOrNew_setChild, if_pos hname.symm, ih, reach]

/-! ### Insertion -/

@[simp] theorem name_withPayload (d : Declaration) (n : Node) :
  (n.withPayload d).name = n.name
  := by
  cases n
  rfl

/-- To insert at a path that is free is to set the payload there. -/
theorem insert_eq_modify (d : Declaration) (path : List String) (n : Node)
    (h : n.payloadAt path = none) :
  n.insert d path = .ok (n.modify (·.withPayload d) path)
  := by
  induction path generalizing n with
  | nil =>
      obtain ⟨name, fullName, payload, children⟩ := n
      obtain rfl : payload = none := h
      rfl
  | cons s path ih =>
      rw [payloadAt_cons] at h
      rw [insert, ih _ h]
      rfl

end Node

namespace Tree

variable {name : String}

theorem insert_of_ne_nil (h : Text.segments name ≠ []) (t : Tree) (d : Declaration) :
  t.insert name d
    = match t.root.insert d (Text.segments name) with
      | .ok root => .ok ⟨root⟩
      | .error e => .error (.duplicate name d.id e.id)
  := by
  rw [insert]
  split
  · contradiction
  · rfl

/-- The steps of an insertion at a name with segments. -/
theorem insertion_run_of_ne_nil (h : Text.segments name ≠ []) (t : Tree) (d : Declaration) :
  (insertion name d).run t
    = match t.root.payloadAt (Text.segments name) with
      | some e => .error (.duplicate name d.id e.id) ⟨t.root.modify id (Text.segments name)⟩
      | none =>
        .ok ((t.root.reach (Text.segments name)).withPayload d)
          ⟨(t.root.modify id (Text.segments name)).modify (·.withPayload d)
            (Text.segments name)⟩
  := by
  have hcons : (Text.segments name).isEmpty = false := by simpa using h
  rw [insertion, ← Node.payload_reach]
  simp only [hcons, Bool.false_eq_true, if_false, EStateM.run_bind, EStateM.run_get,
    EStateM.run_modify]
  cases (t.root.reach (Text.segments name)).payload with
  | some e => rfl
  | none => rfl

/-- An insertion in place succeeds when `insert` does, and leaves the tree as it was when it
fails. -/
theorem insertion_run (t : Tree) (name : String) (d : Declaration) :
  (insertion name d).run t
    = match t.insert name d with
      | .ok u => .ok (u.root.reach (Text.segments name)) u
      | .error e => .error e t
  := by
  by_cases hnil : Text.segments name = []
  · rw [insert, insertion]
    simp only [hnil]
    rfl
  · rw [insertion_run_of_ne_nil hnil, insert_of_ne_nil hnil]
    cases hpayload : t.root.payloadAt (Text.segments name) with
    | some e =>
        obtain ⟨m, hm, -⟩ := Option.bind_eq_some_iff.mp hpayload
        rw [Node.insert_of_payloadAt_eq_some d _ _ hpayload]
        simp only [Node.modify_id_of_descend? hm]
    | none =>
        rw [Node.insert_eq_modify d _ _ hpayload]
        simp only [Node.reach_modify (Node.name_withPayload d),
          Node.modify_modify_id (Node.name_withPayload d)]

end Tree

end MessagePlacement
