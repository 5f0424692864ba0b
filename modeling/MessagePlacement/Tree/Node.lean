import MessagePlacement.Declaration
import MessagePlacement.LayoutError

/-!
# The declaration tree

Dotted names share their leading segments, so a set of declarations is a tree with one
node for each namespace and message.  A `Node` carries its segment, the dotted name of
the segments from the root, the declaration whose name ends at it, if any, and its
children in the order in which they were made.  `childOrNew` and `setChild` are the two
halves of a step along a segment: the child with that segment, made if it is missing, and
the node with a child put in its place.  `insert` is the step repeated along a list of
segments.
-/

namespace MessagePlacement

/-- A node of the declaration tree. -/
inductive Node where
  | mk (name fullName : String) (payload : Option Declaration) (children : List Node)

namespace Node

/-- The segment of a node, empty at the root. -/
def name : Node → String
  | mk name _ _ _ => name

/-- The segments from the root to a node, joined by dots. -/
def fullName : Node → String
  | mk _ fullName _ _ => fullName

/-- The declaration whose name ends at a node. -/
def payload : Node → Option Declaration
  | mk _ _ payload _ => payload

/-- The children of a node in the order in which they were made. -/
def children : Node → List Node
  | mk _ _ _ children => children

/-- The root of a tree without declarations. -/
def root : Node := mk "" "" none []

/-- The dotted name of a child. -/
def childName (parent segment : String) : String :=
  if parent = "" then segment else parent ++ "." ++ segment

/-- The child with a segment. -/
def child? (n : Node) (segment : String) : Option Node :=
  n.children.find? (·.name == segment)

/-- The child with a segment, or a new one. -/
def childOrNew (n : Node) (segment : String) : Node :=
  (n.child? segment).getD (mk segment (childName n.fullName segment) none [])

/-- A list with a node in the place of the one with its segment, or at the end. -/
def replaceOrAppend (c : Node) : List Node → List Node
  | [] => [c]
  | n :: ns => if n.name == c.name then c :: ns else n :: replaceOrAppend c ns

/-- A node with one of its children replaced, or with a new child. -/
def setChild (n c : Node) : Node :=
  mk n.name n.fullName n.payload (replaceOrAppend c n.children)

/-- The node reached along a list of segments. -/
def descend? : List String → Node → Option Node
  | [], n => some n
  | s :: ss, n => (n.child? s).bind (descend? ss)

/-- A node with the node along a list of segments, made where it is missing, replaced by
its image. -/
def modify (f : Node → Node) : List String → Node → Node
  | [], n => f n
  | s :: ss, n => n.setChild ((n.childOrNew s).modify f ss)

/-- The node along a list of segments, new where it is missing. -/
def reach : List String → Node → Node
  | [], n => n
  | s :: ss, n => (n.childOrNew s).reach ss

/-- A node with a declaration as its payload. -/
def withPayload (d : Declaration) : Node → Node
  | mk name fullName _ children => mk name fullName (some d) children

/-- A node with a declaration put at the end of a list of segments.  It fails, with the
declaration in place, if there is one. -/
def insert (d : Declaration) : List String → Node → Except Declaration Node
  | [], mk name fullName payload children =>
    match payload with
    | some e => .error e
    | none => .ok (mk name fullName (some d) children)
  | s :: ss, n => ((n.childOrNew s).insert d ss).map n.setChild

/-- Whether a node has no children. -/
def isLeaf (n : Node) : Bool := n.children.isEmpty

/-- Whether the name of some declaration ends at a child of a node. -/
def hasPayloadChild (n : Node) : Bool :=
  n.children.any (·.payload.isSome)

/-- The children of a node in increasing order of their segments. -/
def sortedChildren (n : Node) : List Node :=
  n.children.mergeSort fun a b => decide (a.name ≤ b.name)

/-- The dotted name of the parent of a node, by its own dotted name. -/
def parentName (n : Node) : String :=
  Text.beforeLastDot n.fullName

mutual

/-- The number of nodes at and below a node. -/
def size : Node → Nat
  | mk _ _ _ children => sizes children + 1

/-- The number of nodes at and below the members of a list. -/
def sizes : List Node → Nat
  | [] => 0
  | n :: ns => n.size + sizes ns

end

@[simp] theorem sizes_append (ns ms : List Node) :
  sizes (ns ++ ms) = sizes ns + sizes ms
  := by
  induction ns with
  | nil => simp [sizes]
  | cons n ns ih => simp [sizes, ih, Nat.add_assoc]

theorem sizes_perm {ns ms : List Node} (h : ns.Perm ms) :
  sizes ns = sizes ms
  := by
  induction h with
  | nil => rfl
  | cons n _ ih => simp [sizes, ih]
  | swap n m ns => simp only [sizes]; omega
  | trans _ _ ih₁ ih₂ => exact ih₁.trans ih₂

theorem size_eq (n : Node) :
  n.size = sizes n.children + 1
  := by
  cases n
  rfl

/-- Sorting the children keeps the number of nodes. -/
@[simp] theorem sizes_sortedChildren (n : Node) :
  sizes n.sortedChildren = sizes n.children
  := sizes_perm (List.mergeSort_perm _ _)

end Node

end MessagePlacement
