import MessagePlacement.Yaml.Node

/-!
# Merge keys

A mapping under a merge key lends its entries to the mapping that holds the key.
`Nodes.flatten` puts the lent entries in front of a mapping's own ones and drops its merge
keys, first doing so in the mappings that lend.  A key that marks a default value becomes a
text.  Both are changes of the nodes themselves: they hold wherever a node has a name.
-/

namespace MessagePlacement.Yaml

/-- The nodes of a text by their numbers. -/
abbrev Nodes := Array Node

namespace Nodes

/-- The entries of a mapping; none of any other node. -/
def entries? (nodes : Nodes) (id : NodeId) : Option (List (NodeId × NodeId)) :=
  match nodes[id]? with
  | some (.mapping _ es) => some es
  | _ => none

/-- The nodes with other entries for a mapping. -/
def setEntries (nodes : Nodes) (id : NodeId) (es : List (NodeId × NodeId)) : Nodes :=
  match nodes[id]? with
  | some (.mapping tag _) => nodes.setIfInBounds id (.mapping tag es)
  | _ => nodes

/-- Whether a node has a tag. -/
def hasTag (nodes : Nodes) (tag : Tag) (id : NodeId) : Bool :=
  nodes[id]?.any (·.tag == tag)

/-- The nodes with a text for a key that marks a default value. -/
def settleKey (nodes : Nodes) (id : NodeId) : Nodes :=
  match nodes[id]? with
  | some n => if n.tag = .default then nodes.setIfInBounds id (n.withTag .text) else nodes
  | none => nodes

/-- The number of merge keys in all mappings. -/
def mergeCount (nodes : Nodes) : Nat :=
  nodes.foldl
    (fun total n =>
      match n with
      | .mapping _ es => total + es.countP fun e => nodes.hasTag .merge e.1
      | _ => total)
    0

/-- The entries that the node under a merge key lends: those of a mapping, or those of the
mappings of a sequence, the last one first.  The mappings are made ready by `flatten`. -/
def lent (flatten : NodeId → Nodes → Except ReadError Nodes) (id : NodeId) (nodes : Nodes) :
    Except ReadError (List (NodeId × NodeId) × Nodes) :=
  let lend (front : List (NodeId × NodeId)) (id : NodeId) (nodes : Nodes) := do
    let nodes ← flatten id nodes
    pure ((nodes.entries? id).getD [] ++ front, nodes)
  match nodes[id]? with
  | some (.mapping _ _) => lend [] id nodes
  | some (.sequence _ items) =>
    items.foldlM (fun (front, nodes) id => lend front id nodes) ([], nodes)
  | _ => .error .malformed

/-- The entries lent to a mapping, given those of its own that have been looked at, in reverse,
and those that have not.  Once a mapping that lends to itself has taken everything over, its
other entries are settled. -/
def takeOver (flatten : NodeId → Nodes → Except ReadError Nodes) (id : NodeId) :
    List (NodeId × NodeId) → List (NodeId × NodeId) → List (NodeId × NodeId) → Nodes →
      Except ReadError (List (NodeId × NodeId) × Nodes)
  | _, [], all, nodes => .ok (all, nodes)
  | kept, (k, v) :: rest, all, nodes =>
    if nodes.hasTag .merge k then do
      let own := kept.reverse ++ rest
      let (front, nodes) ← lent flatten v (nodes.setEntries id own)
      if nodes.entries? id == some own then takeOver flatten id kept rest (all ++ front) nodes
      else pure (all ++ front, nodes)
    else
      takeOver flatten id ((k, v) :: kept) rest all (nodes.settleKey k)

/-- The nodes after a mapping has taken over the entries lent to it, if the counter is above
the number of merge keys. -/
def flatten : Nat → NodeId → Nodes → Except ReadError Nodes
  | 0, _, _ => .error .malformed
  | fuel + 1, id, nodes =>
    match nodes.entries? id with
    | none => .error .malformed
    | some es => do
      let (front, nodes) ← takeOver (flatten fuel) id [] es [] nodes
      let own := (nodes.entries? id).getD []
      pure (if front.isEmpty then nodes else nodes.setEntries id (front ++ own))

end Nodes

end MessagePlacement.Yaml
