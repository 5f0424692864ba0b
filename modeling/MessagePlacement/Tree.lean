import MessagePlacement.Attempt
import MessagePlacement.Tree.Walk

/-!
# Trees of declarations

A `Tree` is a root node under operations that take dotted names.  `insert` refuses a name
without segments and a name at which a declaration is in place; `ofList` inserts
declarations at their own names, in order.  `insertion` is the same for a tree that is changed
in place: it makes the nodes along the name first, and looks for a declaration at their end
afterwards.
-/

namespace MessagePlacement

/-- A tree of declarations. -/
structure Tree where
  root : Node

namespace Tree

/-- The tree without declarations. -/
def empty : Tree := ⟨.root⟩

/-- The tree with a declaration put at a name. -/
def insert (t : Tree) (name : String) (d : Declaration) : Except LayoutError Tree :=
  match Text.segments name with
  | [] => .error .emptyName
  | segments =>
    match t.root.insert d segments with
    | .ok root => .ok ⟨root⟩
    | .error e => .error (.duplicate name d.id e.id)

/-- The insertion of a declaration at a name, as a change of the tree in place; it gives the
node at the name. -/
def insertion (name : String) (d : Declaration) : Attempt LayoutError Tree Node := do
  let segments := Text.segments name
  if segments.isEmpty then
    throw .emptyName
  let current := (← get).root.reach segments
  modify fun t => ⟨t.root.modify id segments⟩
  match current.payload with
  | some e => throw (.duplicate name d.id e.id)
  | none =>
    modify fun t => ⟨t.root.modify (·.withPayload d) segments⟩
    pure (current.withPayload d)

/-- The tree of a list of declarations. -/
def ofList (ds : List Declaration) : Except LayoutError Tree :=
  ds.foldlM (fun t d => t.insert d.name d) empty

/-- The node at a name. -/
def node? (t : Tree) (name : String) : Option Node :=
  t.root.descend? (Text.segments name)

/-- The tree with a child of a given segment at the node along a list of segments, made if it
is missing, and that child. -/
def openChild? (t : Tree) (path : List String) (segment : String) : Option (Tree × Node) :=
  (t.root.descend? path).map fun n =>
    let c := n.childOrNew segment
    (⟨t.root.modify (·.setChild c) path⟩, c)

/-- Whether the root has no children. -/
def isEmpty (t : Tree) : Bool := t.root.isLeaf

/-- The number of declarations. -/
def size (t : Tree) : Nat := t.root.countPayloads

end Tree

end MessagePlacement
