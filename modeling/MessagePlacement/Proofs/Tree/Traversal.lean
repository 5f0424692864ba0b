import Mathlib.Data.String.Basic
import MessagePlacement.Proofs.Sorting
import MessagePlacement.Proofs.Tree.Location

/-!
# The walk as a recursion

The walk from a stack is the walks from its members one after another, and the walk of a
node is the node followed by the walks of its children in the order of their names, each
behind the name of the child.  The walk of a located node lists what its paths lead to, and
goes through these paths in increasing lexicographic order.
-/

namespace MessagePlacement.Node

theorem mem_sortedChildren {n c : Node} :
  c ∈ n.sortedChildren ↔ c ∈ n.children
  := (List.mergeSort_perm _ _).mem_iff

/-- The children of a located node increase by their names. -/
theorem Located.pairwise_sortedChildren {path : List String} {n : Node} (h : Located path n) :
  n.sortedChildren.Pairwise fun b c => b.name < c.name
  := pairwise_mergeSort_of_nodup name h.nodup

theorem steps_append (path : List String) (n : Node) (s : List String) :
  (steps path n).map (fun e => (s ++ e.1, e.2)) = steps (s ++ path) n
  := by
  simp [steps, Function.comp_def]

/-- The walk from a stack is the walk from its upper part and then from its lower part. -/
theorem walkFrom_append (upper lower : List (List String × Node)) :
  walkFrom (upper ++ lower) = walkFrom upper ++ walkFrom lower
  := by
  induction upper using walkFrom.induct with
  | case1 => simp [walkFrom]
  | case2 path n stack ih =>
      rw [List.cons_append, walkFrom, walkFrom, ← List.append_assoc, ih, List.cons_append]

/-- Segments put before all paths of a stack are before all paths of its walk. -/
theorem walkFrom_map (s : List String) (stack : List (List String × Node)) :
  walkFrom (stack.map fun e => (s ++ e.1, e.2)) = (walkFrom stack).map fun e => (s ++ e.1, e.2)
  := by
  induction stack using walkFrom.induct with
  | case1 => simp [walkFrom]
  | case2 path n stack ih =>
      rw [List.map_append, steps_append] at ih
      rw [List.map_cons, walkFrom, walkFrom, ih, List.map_cons]

/-- The walk from a stack of nodes is the walk of each of them behind its path. -/
theorem walkFrom_eq_flatMap (stack : List (List String × Node)) :
  walkFrom stack = stack.flatMap fun e => e.2.walk.map fun f => (e.1 ++ f.1, f.2)
  := by
  induction stack with
  | nil => simp [walkFrom]
  | cons e stack ih =>
      have hsingle := walkFrom_map e.1 [([], e.2)]
      rw [List.map_singleton, List.append_nil] at hsingle
      rw [← List.singleton_append, walkFrom_append, ih, List.flatMap_append,
        List.flatMap_singleton, hsingle]
      rfl

/-- The walk of a node is the node and then the walks of its children in the order of their
names. -/
theorem walk_eq (n : Node) :
  n.walk = ([], n) :: n.sortedChildren.flatMap fun c => c.walk.map fun e => (c.name :: e.1, e.2)
  := by
  rw [walk, walkFrom, List.append_nil, walkFrom_eq_flatMap, steps, List.flatMap_map]
  rfl

/-- The flattening of a node is its payload and then the flattenings of its children in the
order of their names. -/
theorem flatten_eq (n : Node) :
  n.flatten = (n.payload.map (n.fullName, ·)).toList ++ n.sortedChildren.flatMap flatten
  := by
  rw [flatten, walk_eq, List.filterMap_cons, List.filterMap_flatMap]
  have hchild : ∀ c : Node,
      (c.walk.map fun e => (c.name :: e.1, e.2)).filterMap
        (fun e => e.2.payload.map (e.2.fullName, ·)) = c.flatten := by
    intro c
    rw [List.filterMap_map]
    rfl
  simp only [hchild]
  cases n.payload with
  | none => rfl
  | some d => rfl

namespace Located

variable {path : List String} {n : Node}

/-- The walk of a located node lists the nodes at or below it with the paths to them. -/
theorem mem_walk (h : Located path n) :
  ∀ {q : List String} {m : Node}, (q, m) ∈ n.walk ↔ n.descend? q = some m
  := by
  induction h with
  | @intro path n isSegment fullName_eq nodup occupied located ih =>
      intro q m
      have h := Located.intro isSegment fullName_eq nodup occupied located
      rw [walk_eq, List.mem_cons, List.mem_flatMap]
      constructor
      · rintro (hq | ⟨c, hc, hq⟩)
        · obtain ⟨rfl, rfl⟩ := Prod.mk.inj hq
          rfl
        · obtain ⟨⟨q', m'⟩, hwalk, hq⟩ := List.mem_map.mp hq
          obtain ⟨rfl, rfl⟩ := Prod.mk.inj hq
          have hmem := mem_sortedChildren.mp hc
          rw [h.descend?_name hmem]
          exact (ih c hmem).mp hwalk
      · intro hq
        cases q with
        | nil =>
            left
            rw [Option.some.inj hq]
        | cons s q =>
            right
            obtain ⟨c, hc, hm⟩ := Option.bind_eq_some_iff.mp hq
            have hmem := mem_of_child? hc
            use c, mem_sortedChildren.mpr hmem
            rw [List.mem_map]
            use (q, m), (ih c hmem).mpr hm
            rw [name_of_child? hc]

/-- The walk of a located node goes through the paths in increasing order. -/
theorem pairwise_walk (h : Located path n) :
  n.walk.Pairwise fun e f => e.1 < f.1
  := by
  induction h with
  | @intro path n isSegment fullName_eq nodup occupied located ih =>
      have hsorted :=
        (Located.intro isSegment fullName_eq nodup occupied located).pairwise_sortedChildren
      rw [walk_eq, List.pairwise_cons, List.pairwise_flatMap]
      refine ⟨?_, ?_, ?_⟩
      · intro e he
        obtain ⟨c, -, he⟩ := List.mem_flatMap.mp he
        obtain ⟨f, -, rfl⟩ := List.mem_map.mp he
        apply List.nil_lt_cons
      · intro c hc
        rw [List.pairwise_map]
        apply (ih c (mem_sortedChildren.mp hc)).imp
        intro e f hlt
        exact .cons hlt
      · apply hsorted.imp
        intro b c hlt e he f hf
        obtain ⟨e, -, rfl⟩ := List.mem_map.mp he
        obtain ⟨f, -, rfl⟩ := List.mem_map.mp hf
        exact .rel hlt

end Located

end MessagePlacement.Node
