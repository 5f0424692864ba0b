import Mathlib.Data.List.Nodup
import MessagePlacement.Proofs.Segments
import MessagePlacement.Tree

/-!
# Located nodes

`Located path n` says that the node `n` with everything below it stands at the end of
`path`: full names are the paths joined by dots, the members of a path are segments,
children differ in their names, and a child without children carries a payload.
`payloadAt` is the view of a node as a map from paths to payloads.  Insertion keeps
`Located` and updates that map at one path, or fails because the path is taken.
-/

namespace MessagePlacement.Node

/-! ### Children by name -/

theorem mem_replaceOrAppend {b c : Node} {ns : List Node} (h : b ∈ replaceOrAppend c ns) :
  b = c ∨ b ∈ ns
  := by
  induction ns with
  | nil =>
      left
      simpa [replaceOrAppend] using h
  | cons n ns ih =>
      rw [replaceOrAppend] at h
      split at h
      · rcases List.mem_cons.mp h with rfl | h
        · left
          rfl
        · right
          apply List.mem_cons_of_mem _ h
      · rcases List.mem_cons.mp h with rfl | h
        · right
          apply List.mem_cons_self
        · rcases ih h with rfl | h
          · left
            rfl
          · right
            apply List.mem_cons_of_mem _ h

theorem replaceOrAppend_ne_nil (c : Node) (ns : List Node) :
  replaceOrAppend c ns ≠ []
  := by
  cases ns with
  | nil => simp [replaceOrAppend]
  | cons n ns =>
      rw [replaceOrAppend]
      split <;> simp

/-- Replacing a child keeps the names of the children distinct. -/
theorem nodup_replaceOrAppend {c : Node} {ns : List Node} (h : (ns.map name).Nodup) :
  ((replaceOrAppend c ns).map name).Nodup
  := by
  induction ns with
  | nil => simp [replaceOrAppend]
  | cons n ns ih =>
      rw [List.map_cons, List.nodup_cons] at h
      rw [replaceOrAppend]
      split
      · rename_i hn
        rw [List.map_cons, List.nodup_cons, ← beq_iff_eq.mp hn]
        apply h
      · rename_i hn
        rw [List.map_cons, List.nodup_cons]
        constructor
        · intro hmem
          obtain ⟨b, hb, hbn⟩ := List.mem_map.mp hmem
          rcases mem_replaceOrAppend hb with rfl | hb
          · apply hn (beq_iff_eq.mpr hbn.symm)
          · apply h.1 (List.mem_map.mpr ⟨b, hb, hbn⟩)
        · apply ih h.2

theorem find?_replaceOrAppend (c : Node) (ns : List Node) (s : String) :
  (replaceOrAppend c ns).find? (·.name == s)
    = if s = c.name then some c else ns.find? (·.name == s)
  := by
  induction ns with
  | nil =>
      by_cases hs : s = c.name
      · simp [replaceOrAppend, hs]
      · have hs' : ¬ c.name = s := fun h => hs h.symm
        simp [replaceOrAppend, hs, hs']
  | cons n ns ih =>
      rw [replaceOrAppend]
      by_cases hn : n.name = c.name
      · by_cases hs : s = c.name
        · simp [hn, hs]
        · have hs' : ¬ c.name = s := fun h => hs h.symm
          simp [hn, hs, hs']
      · by_cases hs : s = n.name
        · simp [hn, hs]
        · have hs' : ¬ n.name = s := fun h => hs h.symm
          simp [hn, hs', ih]

theorem child?_setChild (n c : Node) (s : String) :
  (n.setChild c).child? s = if s = c.name then some c else n.child? s
  := find?_replaceOrAppend c n.children s

theorem childOrNew_setChild (n c : Node) (s : String) :
  (n.setChild c).childOrNew s = if s = c.name then c else n.childOrNew s
  := by
  rw [childOrNew, child?_setChild]
  split
  · rfl
  · rfl

theorem name_of_child? {n c : Node} {s : String} (h : n.child? s = some c) :
  c.name = s
  := by
  simpa using List.find?_some h

theorem mem_of_child? {n c : Node} {s : String} (h : n.child? s = some c) :
  c ∈ n.children
  := List.mem_of_find?_eq_some h

theorem name_childOrNew (n : Node) (s : String) :
  (n.childOrNew s).name = s
  := by
  rw [childOrNew]
  cases h : n.child? s with
  | none => rfl
  | some c => exact name_of_child? h

/-! ### Payloads along paths -/

theorem descend?_append (path rest : List String) (n : Node) :
  n.descend? (path ++ rest) = (n.descend? path).bind (descend? rest)
  := by
  induction path generalizing n with
  | nil => rfl
  | cons s path ih =>
      rw [List.cons_append, descend?, descend?]
      cases n.child? s with
      | none => rfl
      | some c => exact ih c

theorem name_of_descend? {n m : Node} {path : List String} {s : String}
    (h : n.descend? (path ++ [s]) = some m) :
  m.name = s
  := by
  rw [descend?_append] at h
  obtain ⟨b, -, h⟩ := Option.bind_eq_some_iff.mp h
  obtain ⟨c, hc, h⟩ := Option.bind_eq_some_iff.mp h
  obtain rfl := Option.some.inj h
  apply name_of_child? hc

/-- The payload of the node along a path. -/
def payloadAt (n : Node) (path : List String) : Option Declaration :=
  (n.descend? path).bind payload

theorem payloadAt_new (name fullName : String) (path : List String) :
  (mk name fullName none []).payloadAt path = none
  := by
  cases path with
  | nil => rfl
  | cons s path => rfl

/-- A path leads from a node to where its rest leads from the child, which counts as new if
it is missing. -/
theorem payloadAt_cons (n : Node) (s : String) (path : List String) :
  n.payloadAt (s :: path) = (n.childOrNew s).payloadAt path
  := by
  rw [payloadAt, descend?, childOrNew]
  cases n.child? s with
  | none => simp [payloadAt_new]
  | some c => rfl

theorem payloadAt_append {n m : Node} {path : List String} (h : n.descend? path = some m)
    (rest : List String) :
  n.payloadAt (path ++ rest) = m.payloadAt rest
  := by
  rw [payloadAt, descend?_append, h]
  rfl

/-- Where a payload is at or below the end of a path, there is a node. -/
theorem exists_descend? {n : Node} {path rest : List String} {d : Declaration}
    (h : n.payloadAt (path ++ rest) = some d) :
  ∃ m, n.descend? path = some m
  := by
  rw [payloadAt, descend?_append] at h
  obtain ⟨_, h, -⟩ := Option.bind_eq_some_iff.mp h
  obtain ⟨m, h, -⟩ := Option.bind_eq_some_iff.mp h
  use m

/-! ### Insertion as an update -/

/-- Insertion at a path that is taken fails with the payload there. -/
theorem insert_of_payloadAt_eq_some
    (d : Declaration) {e : Declaration} (path : List String) (n : Node)
    (h : n.payloadAt path = some e) :
  n.insert d path = .error e
  := by
  induction path generalizing n with
  | nil =>
      obtain ⟨name, fullName, payload, children⟩ := n
      obtain rfl : payload = some e := h
      rfl
  | cons s path ih =>
      rw [payloadAt_cons] at h
      rw [insert, ih _ h]
      rfl

theorem name_insert {d : Declaration} {path : List String} {n m : Node}
    (h : n.insert d path = .ok m) :
  m.name = n.name
  := by
  cases path with
  | nil =>
      obtain ⟨name, fullName, payload, children⟩ := n
      cases payload with
      | some e => cases h
      | none =>
          obtain rfl := Except.ok.inj h
          rfl
  | cons s path =>
      rw [insert] at h
      cases hc : (n.childOrNew s).insert d path with
      | error e =>
          rw [hc] at h
          cases h
      | ok c =>
          rw [hc] at h
          obtain rfl := Except.ok.inj h
          rfl

/-- What is inserted is found at its path, and all other paths keep their payloads. -/
theorem insert_of_payloadAt_eq_none
    (d : Declaration) (path : List String) (n : Node) (h : n.payloadAt path = none) :
  ∃ m, n.insert d path = .ok m
    ∧ ∀ q, m.payloadAt q = if q = path then some d else n.payloadAt q
  := by
  induction path generalizing n with
  | nil =>
      obtain ⟨name, fullName, payload, children⟩ := n
      obtain rfl : payload = none := h
      use mk name fullName (some d) children, rfl
      intro q
      cases q with
      | nil => rfl
      | cons s q => rfl
  | cons s path ih =>
      rw [payloadAt_cons] at h
      obtain ⟨c, hc, hq⟩ := ih _ h
      use n.setChild c
      constructor
      · rw [insert, hc]
        rfl
      · intro q
        cases q with
        | nil => rfl
        | cons t q =>
            rw [payloadAt_cons, childOrNew_setChild, name_insert hc, name_childOrNew,
              payloadAt_cons]
            by_cases ht : t = s
            · subst ht
              simp [hq]
            · simp [ht]

/-! ### Located nodes -/

/-- `Located path n`: the node `n` stands at the end of `path`, and so do the nodes below it
at the ends of the paths that lead to them. -/
inductive Located : List String → Node → Prop where
  | intro {path : List String} {n : Node}
      (isSegment : ∀ s ∈ path, Text.IsSegment '.' s)
      (fullName_eq : n.fullName = Text.join "." path)
      (nodup : (n.children.map name).Nodup)
      (occupied : ∀ c ∈ n.children, c.payload = none → c.children ≠ [])
      (located : ∀ c ∈ n.children, Located (path ++ [c.name]) c) : Located path n

namespace Located

variable {path : List String} {n : Node}

theorem isSegment (h : Located path n) :
  ∀ s ∈ path, Text.IsSegment '.' s
  := by
  obtain ⟨h, -, -, -, -⟩ := h
  apply h

theorem fullName_eq (h : Located path n) :
  n.fullName = Text.join "." path
  := by
  obtain ⟨-, h, -, -, -⟩ := h
  apply h

theorem nodup (h : Located path n) :
  (n.children.map name).Nodup
  := by
  obtain ⟨-, -, h, -, -⟩ := h
  apply h

theorem occupied (h : Located path n) {c : Node} (hc : c ∈ n.children) :
  c.payload = none → c.children ≠ []
  := by
  obtain ⟨-, -, -, h, -⟩ := h
  apply h c hc

theorem child (h : Located path n) {c : Node} (hc : c ∈ n.children) :
  Located (path ++ [c.name]) c
  := by
  obtain ⟨-, -, -, -, h⟩ := h
  apply h c hc

/-- The root of the empty tree. -/
theorem root :
  Located [] Node.root
  := by
  apply Located.intro
  · simp
  · rfl
  · apply List.nodup_nil
  · intro c hc
    cases hc
  · intro c hc
    cases hc

/-- A child is found by its name. -/
theorem child?_name (h : Located path n) {c : Node} (hc : c ∈ n.children) :
  n.child? c.name = some c
  := by
  obtain ⟨as, bs, hsplit⟩ := List.append_of_mem hc
  have hnodup := h.nodup
  rw [child?, hsplit, List.find?_append]
  rw [hsplit, List.map_append, List.map_cons] at hnodup
  have hnone : as.find? (·.name == c.name) = none := by
    rw [List.find?_eq_none]
    intro a ha hname
    apply (List.nodup_append.mp hnodup).2.2 a.name (List.mem_map_of_mem ha) c.name
      (List.mem_cons_self ..)
    apply beq_iff_eq.mp hname
  simp [hnone]

/-- A path that begins with the name of a child goes on from that child. -/
theorem descend?_name (h : Located path n) {c : Node} (hc : c ∈ n.children) (q : List String) :
  n.descend? (c.name :: q) = c.descend? q
  := by
  rw [Node.descend?, h.child?_name hc]
  rfl

/-- The node along a path from a located node is located. -/
theorem descend? {q : List String} {m : Node} (h : Located path n) (hq : n.descend? q = some m) :
  Located (path ++ q) m
  := by
  induction q generalizing n path with
  | nil =>
      obtain rfl : n = m := Option.some.inj hq
      simpa using h
  | cons s q ih =>
      obtain ⟨c, hc, hq⟩ := Option.bind_eq_some_iff.mp hq
      have hlocated := ih (h.child (mem_of_child? hc)) hq
      rw [name_of_child? hc] at hlocated
      simpa using hlocated

/-- The segments of a full name are the path to the node. -/
theorem segments_fullName (h : Located path n) :
  Text.segments n.fullName = path
  := by
  rw [h.fullName_eq, Text.segments_join h.isSegment]

/-- What is before the last dot of a full name is the full name of the parent. -/
theorem parentName_eq {s : String} {m : Node} (h : Located (path ++ [s]) m) :
  m.parentName = Text.join "." path
  := by
  rw [parentName, h.fullName_eq, Text.beforeLastDot_join h.isSegment, List.dropLast_concat]

/-- A new child of a located node is located. -/
theorem childOrNew (h : Located path n) {s : String} (hs : Text.IsSegment '.' s) :
  Located (path ++ [s]) (n.childOrNew s)
  := by
  have hsegment : ∀ t ∈ path ++ [s], Text.IsSegment '.' t := by
    intro t ht
    rcases List.mem_append.mp ht with ht | ht
    · apply h.isSegment t ht
    · rw [List.mem_singleton.mp ht]
      apply hs
  rw [Node.childOrNew]
  cases hc : n.child? s with
  | some c =>
      have hlocated := h.child (mem_of_child? hc)
      rw [name_of_child? hc] at hlocated
      apply hlocated
  | none =>
      apply Located.intro
      · apply hsegment
      · change childName n.fullName s = _
        rw [h.fullName_eq, childName]
        rcases eq_or_ne path [] with rfl | hne
        · simp [Text.join]
        · rw [if_neg, Text.join_concat hne]
          rw [Text.join_eq_empty_iff (fun t ht => (h.isSegment t ht).1)]
          apply hne
      · apply List.nodup_nil
      · intro c hc
        cases hc
      · intro c hc
        cases hc

theorem setChild {c : Node} (h : Located path n) (hc : Located (path ++ [c.name]) c)
    (hoccupied : c.payload = none → c.children ≠ []) :
  Located path (n.setChild c)
  := by
  apply Located.intro
  · apply h.isSegment
  · apply h.fullName_eq
  · apply nodup_replaceOrAppend h.nodup
  · intro b hb
    rcases mem_replaceOrAppend hb with rfl | hb
    · apply hoccupied
    · apply h.occupied hb
  · intro b hb
    rcases mem_replaceOrAppend hb with rfl | hb
    · apply hc
    · apply h.child hb

/-- Insertion along segments keeps a node located, and the node is not empty afterwards. -/
theorem insert {d : Declaration} {q : List String} {m : Node} (h : Located path n)
    (hq : ∀ s ∈ q, Text.IsSegment '.' s) (hm : n.insert d q = .ok m) :
  Located path m ∧ (m.payload = none → m.children ≠ [])
  := by
  induction q generalizing n m path with
  | nil =>
      obtain ⟨name, fullName, payload, children⟩ := n
      cases payload with
      | some e => cases hm
      | none =>
          obtain rfl := Except.ok.inj hm
          constructor
          · obtain ⟨hsegment, hname, hnodup, hoccupied, hlocated⟩ := h
            exact .intro hsegment hname hnodup hoccupied hlocated
          · intro hnone
            cases hnone
  | cons s q ih =>
      have hs := hq s (List.mem_cons_self ..)
      cases hc : (n.childOrNew s).insert d q with
      | error e =>
          rw [Node.insert, hc] at hm
          cases hm
      | ok c =>
          rw [Node.insert, hc] at hm
          obtain rfl := Except.ok.inj hm
          obtain ⟨hlocated, hoccupied⟩ :=
            ih (h.childOrNew hs) (fun t ht => hq t (List.mem_cons_of_mem _ ht)) hc
          constructor
          · apply h.setChild _ hoccupied
            rw [name_insert hc, name_childOrNew]
            apply hlocated
          · intro
            apply replaceOrAppend_ne_nil

/-! ### Payloads below a located node -/

/-- What is below a child is below the node, behind the name of the child. -/
theorem payloadAt_child (h : Located path n) {c : Node} (hc : c ∈ n.children) (q : List String) :
  n.payloadAt (c.name :: q) = c.payloadAt q
  := by
  rw [payloadAt, h.descend?_name hc, payloadAt]

/-- Every node that is not empty has a payload at or below it. -/
theorem exists_payloadAt (h : Located path n) :
  (n.payload = none → n.children ≠ []) → ∃ q d, n.payloadAt q = some d
  := by
  induction h with
  | @intro path n isSegment fullName_eq nodup occupied located ih =>
      intro hoccupied
      cases hn : n.payload with
      | some d => use [], d, hn
      | none =>
          obtain ⟨c, cs, hc⟩ := List.exists_cons_of_ne_nil (hoccupied hn)
          have hmem : c ∈ n.children := by
            rw [hc]
            apply List.mem_cons_self
          obtain ⟨q, d, hq⟩ := ih c hmem (occupied c hmem)
          have hlocated := Located.intro isSegment fullName_eq nodup occupied located
          use c.name :: q, d
          rw [hlocated.payloadAt_child hmem]
          apply hq

/-- A node has no children when no payload is below it. -/
theorem isLeaf_iff (h : Located path n) :
  n.isLeaf = true ↔ ∀ q d, n.payloadAt q = some d → q = []
  := by
  rw [isLeaf, List.isEmpty_iff]
  constructor
  · intro hnil q d hq
    cases q with
    | nil => rfl
    | cons s q =>
        rw [payloadAt, Node.descend?, child?, hnil] at hq
        cases hq
  · intro hall
    by_contra hne
    obtain ⟨c, cs, hc⟩ := List.exists_cons_of_ne_nil hne
    have hmem : c ∈ n.children := by
      rw [hc]
      apply List.mem_cons_self
    obtain ⟨q, d, hq⟩ := (h.child hmem).exists_payloadAt (h.occupied hmem)
    rw [← h.payloadAt_child hmem] at hq
    cases hall _ d hq

/-- A child of a node has a payload when one is a single segment below the node. -/
theorem hasPayloadChild_iff (h : Located path n) :
  n.hasPayloadChild = true ↔ ∃ s d, n.payloadAt [s] = some d
  := by
  rw [hasPayloadChild, List.any_eq_true]
  constructor
  · rintro ⟨c, hc, hsome⟩
    obtain ⟨d, hd⟩ := Option.isSome_iff_exists.mp hsome
    use c.name, d
    rw [h.payloadAt_child hc]
    apply hd
  · rintro ⟨s, d, hd⟩
    rw [payloadAt, Node.descend?] at hd
    obtain ⟨m, hm, hd⟩ := Option.bind_eq_some_iff.mp hd
    obtain ⟨c, hc, hcm⟩ := Option.bind_eq_some_iff.mp hm
    obtain rfl := Option.some.inj hcm
    use c, mem_of_child? hc
    rw [hd]
    rfl

end Located

end MessagePlacement.Node
