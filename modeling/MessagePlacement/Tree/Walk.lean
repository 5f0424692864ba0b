import MessagePlacement.Tree.Node

/-!
# Walking the tree

`walk` lists the nodes at and below a node in depth-first order, a node before its
children and the children in increasing order of their segments, each with the segments
that lead to it.  It keeps the nodes still to be visited on a stack, whose nodes with
their descendants become fewer at every step.  `flatten` keeps the nodes at which the
name of a declaration ends.
-/

namespace MessagePlacement.Node

/-- The nodes of a stack, without the segments that lead to them. -/
def pending (stack : List (List String × Node)) : List Node :=
  stack.map (·.2)

/-- The children of a node with the segments that lead to them. -/
def steps (path : List String) (n : Node) : List (List String × Node) :=
  n.sortedChildren.map fun c => (path ++ [c.name], c)

@[simp] theorem pending_steps (path : List String) (n : Node) :
  pending (steps path n) = n.sortedChildren
  := by
  simp [pending, steps, Function.comp_def]

@[simp] theorem pending_cons (path : List String) (n : Node) (stack : List (List String × Node)) :
  pending ((path, n) :: stack) = n :: pending stack
  := rfl

@[simp] theorem pending_append (front stack : List (List String × Node)) :
  pending (front ++ stack) = pending front ++ pending stack
  := List.map_append

theorem sizes_pending_steps (path : List String) (n : Node) (stack : List (List String × Node)) :
  sizes (pending (steps path n ++ stack)) < sizes (pending ((path, n) :: stack))
  := by
  simp [sizes, size_eq]

/-- The nodes at and below the nodes of a stack. -/
def walkFrom : List (List String × Node) → List (List String × Node)
  | [] => []
  | (path, n) :: stack => (path, n) :: walkFrom (steps path n ++ stack)
termination_by stack => sizes (pending stack)
decreasing_by exact sizes_pending_steps path n stack

/-- The nodes at and below a node, each with the segments that lead to it. -/
def walk (n : Node) : List (List String × Node) :=
  walkFrom [([], n)]

/-- The declarations at and below a node, each with the dotted name of its node. -/
def flatten (n : Node) : List (String × Declaration) :=
  n.walk.filterMap fun (_, m) => m.payload.map (m.fullName, ·)

/-- The number of declarations at and below a node. -/
def countPayloads (n : Node) : Nat := n.flatten.length

end MessagePlacement.Node
