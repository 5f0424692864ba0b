import MessagePlacement.Tree

/-!
# Folding plans

A plan gives message ids their path, the dotted directory in which the code of the
message is generated, and their group, the namespace whose messages share a file.  Both
are lists in the order in which the ids were first given; giving an id again keeps its
place.

Messages are folded at the shallowest level that allows it.  A node without children is
such a level, and so is a node with a message as a child, for that message has no finer
namespace of its own; a node all of whose children are namespaces is not, and its
children are examined instead, level by level.  `Node.fold` folds the messages at and
below a node: their paths are their names without the name of the parent of that node at
the front and without their last segment, and their group is its segment.
-/

namespace MessagePlacement

/-- The paths and groups of message ids. -/
structure Plan where
  paths : List (Int × String)
  groups : List (Int × String)
  deriving DecidableEq, Repr

namespace Plan

/-- The plan without ids. -/
def empty : Plan := ⟨[], []⟩

/-- A list with the value of an id set, in its place or at the end. -/
def assign (id : Int) (value : String) : List (Int × String) → List (Int × String)
  | [] => [(id, value)]
  | (i, v) :: rest => if i = id then (i, value) :: rest else (i, v) :: assign id value rest

/-- The value of an id, or the empty text. -/
def valueOf (id : Int) (entries : List (Int × String)) : String :=
  (entries.lookup id).getD ""

/-- The plan with the path and the group of an id set. -/
def set (plan : Plan) (id : Int) (path group : String) : Plan :=
  ⟨assign id path plan.paths, assign id group plan.groups⟩

/-- The number of ids with a path. -/
def size (plan : Plan) : Nat := plan.paths.length

end Plan

namespace Node

/-- The path of a message, with the name of the parent of the node at which it is folded
removed from the front of its own. -/
def foldedPath (parent fullName : String) : String :=
  let relative := if parent = "" then fullName else (Text.dropStart? parent fullName).getD fullName
  Text.join "." (Text.segments relative).dropLast

/-- A plan with the messages at and below a node folded at it. -/
def fold (n : Node) (parent : String) (plan : Plan) : Plan :=
  n.flatten.foldl (fun plan (fullName, d) => plan.set d.id (foldedPath parent fullName) n.name) plan

/-- Whether messages are folded at a node. -/
def isFoldLevel (n : Node) : Bool :=
  n.isLeaf || n.hasPayloadChild

theorem sizes_enqueue (n : Node) (queue : List Node) :
  sizes (queue ++ n.sortedChildren) < sizes (n :: queue)
  := by
  rw [sizes_append, sizes_sortedChildren]
  simp only [sizes, size_eq]
  omega

theorem sizes_dequeue (n : Node) (queue : List Node) :
  sizes queue < sizes (n :: queue)
  := by
  simp only [sizes, size_eq]
  omega

/-- A plan with the messages at and below the nodes of a queue folded. -/
def planFrom (plan : Plan) : List Node → Plan
  | [] => plan
  | n :: queue =>
    if n.isFoldLevel then
      planFrom (n.fold n.parentName plan) queue
    else
      planFrom plan (queue ++ n.sortedChildren)
termination_by queue => sizes queue
decreasing_by
  · exact sizes_dequeue n queue
  · exact sizes_enqueue n queue

/-- The plan of the messages below a node. -/
def plan (n : Node) : Plan :=
  planFrom .empty n.sortedChildren

end Node

/-- The plan of the messages of a tree. -/
def Tree.plan (t : Tree) : Plan := t.root.plan

end MessagePlacement
