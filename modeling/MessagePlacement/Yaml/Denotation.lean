import MessagePlacement.Yaml.Atom
import MessagePlacement.Yaml.Merge

/-!
# What YAML nodes denote

Every node of a document denotes an `Object`, a value whose parts are given by the numbers of
their nodes, so that a node with a name denotes one object wherever the name stands.
`Making` holds the objects made so far: a scalar has its object at once, a collection gets
its parts only after all the nodes met before it, so that errors near the root come first.
`Yaml.parse` is the value of a text, null if the text has no document.
-/

namespace MessagePlacement.Yaml

/-- What a node denotes, its parts given by their nodes. -/
inductive Object where
  | atom (v : Value)
  | list (items : List NodeId)
  | pairs (items : List (NodeId × NodeId))
  | mapping (entries : List (NodeId × NodeId))
  | set (members : List NodeId)
  deriving Repr

/-- The collection without parts that a tag stands for; none for the tag of a scalar. -/
def Object.collection? : Tag → Option Object
  | .sequence => some (.list [])
  | .orderedMap => some (.pairs [])
  | .pairs => some (.pairs [])
  | .mapping => some (.mapping [])
  | .set => some (.set [])
  | _ => none

namespace Nodes

/-- The text of a node read as a scalar: that of a mapping is the one under the first key that
marks a default value.  The counter bounds the number of such steps. -/
def text? (nodes : Nodes) : Nat → Node → Option String
  | 0, _ => none
  | _ + 1, .scalar _ s => some s
  | fuel + 1, .mapping _ es => do
    let (_, v) ← es.find? fun e => nodes.hasTag .default e.1
    text? nodes fuel (← nodes[v]?)
  | _ + 1, .sequence _ _ => none

/-- The value of a node whose tag is one of scalars. -/
def atom (nodes : Nodes) (n : Node) : Except ReadError Value :=
  match nodes.text? (nodes.size + 1) n with
  | none => .error .malformed
  | some s =>
    match n.tag with
    | .null => .ok .null
    | .bool => Atom.bool s
    | .int => Atom.int s
    | .float => Atom.float s
    | .binary => Atom.binary s
    | .timestamp =>
      match n with
      | .scalar _ _ => Atom.timestamp s
      | _ => .error (.fault .wrongType)
    | .text => .ok (.text s)
    | _ => .error .malformed

/-- Whether a node is spelled as the one value that is not a number. -/
def spellsNaN (nodes : Nodes) (id : NodeId) : Bool :=
  nodes[id]?.any fun n => (nodes.text? (nodes.size + 1) n).any Atom.spellsNaN

/-- The only entry of a mapping. -/
def onlyEntry? (nodes : Nodes) (id : NodeId) : Option (NodeId × NodeId) :=
  match nodes.entries? id with
  | some [e] => some e
  | _ => none

end Nodes

/-! ### Objects -/

/-- The nodes, the objects made of them so far, and the collections that have no parts yet,
the last one met first. -/
structure Making where
  nodes : Nodes
  objects : Array (Option Object)
  pending : List NodeId := []

namespace Making

/-- The object of a node. -/
def object? (m : Making) (id : NodeId) : Option Object := (m.objects[id]?).join

/-- The making with an object for a node. -/
def set (id : NodeId) (o : Object) (m : Making) : Making :=
  { m with objects := m.objects.setIfInBounds id (some o) }

/-- The making in which a node has its object. -/
def make (id : NodeId) (m : Making) : Except ReadError Making :=
  match m.object? id, m.nodes[id]? with
  | some _, _ => .ok m
  | none, none => .error .malformed
  | none, some n =>
    match Object.collection? n.tag with
    | some o => .ok { m.set id o with pending := id :: m.pending }
    | none => (m.nodes.atom n).map fun v => m.set id (.atom v)

/-- The making in which a node has an object that may be a key. -/
def makeKey (id : NodeId) (m : Making) : Except ReadError Making := do
  let m ← m.make id
  match m.object? id with
  | some (.atom _) => pure m
  | _ => .error .malformed

/-- The making in which two nodes have objects. -/
def makePair (key : NodeId → Making → Except ReadError Making) (e : NodeId × NodeId) (m : Making) :
    Except ReadError Making := do
  (← key e.1 m).make e.2

/-- Whether two nodes denote the same key.  What is not a number is the same key as itself. -/
def sameKey (m : Making) (i j : NodeId) : Bool :=
  i == j ||
    match m.object? i, m.object? j with
    | some (.atom (.float .nan)), some (.atom (.float .nan)) =>
      m.nodes.spellsNaN i && m.nodes.spellsNaN j
    | some (.atom a), some (.atom b) => a.sameKey b
    | _, _ => false

/-- The entries with the value of a key set: in its place, or at the end. -/
def put (m : Making) (e : NodeId × NodeId) : List (NodeId × NodeId) → List (NodeId × NodeId)
  | [] => [e]
  | (k, v) :: rest => if m.sameKey k e.1 then (k, e.2) :: rest else (k, v) :: put m e rest

/-- The entries of a mapping that takes over what it is lent, each key once. -/
def entriesOf (merges : Nat) (id : NodeId) (m : Making) :
    Except ReadError (List (NodeId × NodeId) × Making) := do
  let m := { m with nodes := ← m.nodes.flatten merges id }
  let es := (m.nodes.entries? id).getD []
  let m ← es.foldlM (fun m e => m.makePair makeKey e) m
  pure (es.foldl (fun all e => m.put e all) [], m)

/-- The items of a sequence. -/
def itemsOf (id : NodeId) (m : Making) : Except ReadError (List NodeId × Making) :=
  match m.nodes[id]? with
  | some (.sequence _ items) => do
    let m ← items.foldlM (fun m id => m.make id) m
    pure (items, m)
  | _ => .error .malformed

/-- The pairs of a sequence of mappings with one entry each. -/
def pairsOf (id : NodeId) (m : Making) : Except ReadError (List (NodeId × NodeId) × Making) :=
  match m.nodes[id]? with
  | some (.sequence _ items) => do
    items.foldlM
      (fun (all, m) id =>
        match m.nodes.onlyEntry? id with
        | some e => do pure (all ++ [e], ← m.makePair make e)
        | none => .error .malformed)
      ([], m)
  | _ => .error .malformed

/-- The making in which a collection has its parts, given the number of merge keys. -/
def fill (merges : Nat) (id : NodeId) (m : Making) : Except ReadError Making :=
  match m.object? id with
  | some (.list _) => do
    let (items, m) ← m.itemsOf id
    pure (m.set id (.list items))
  | some (.pairs _) => do
    let (items, m) ← m.pairsOf id
    pure (m.set id (.pairs items))
  | some (.mapping _) => do
    let (es, m) ← m.entriesOf merges id
    pure (m.set id (.mapping es))
  | some (.set _) => do
    let (es, m) ← m.entriesOf merges id
    pure (m.set id (.set (es.map (·.1))))
  | _ => .ok m

/-- The making in which collections have their parts, first the given ones and then those
pending, if the counter is twice their number. -/
def fillAll (merges : Nat) : Nat → List NodeId → Making → Except ReadError Making
  | 0, _, m => .ok m
  | fuel + 1, [], m =>
    if m.pending.isEmpty then .ok m
    else fillAll merges fuel m.pending.reverse { m with pending := [] }
  | fuel + 1, id :: ids, m => do fillAll merges fuel ids (← m.fill merges id)

/-- The objects of all nodes that a root leads to. -/
def ofDocument (d : Document) : Except ReadError Making := do
  let m ← make d.root ⟨d.nodes, Array.replicate d.nodes.size none, []⟩
  fillAll (Nodes.mergeCount d.nodes + 1) (2 * d.nodes.size + 2) [] m

end Making

/-! ### Values -/

/-- The values of the objects that do not lead to themselves, as far as they are known. -/
abbrev Known := Array (Option Value)

/-- The value of an object and whether it is whole.  Below the given number of outer levels,
what leads back to one of the collections around it is cut there.  The counter bounds the
number of levels. -/
def Making.unfold (m : Making) : Nat → Nat → List NodeId → NodeId → StateM Known (Value × Bool)
  | 0, _, _, _ => pure (.null, false)
  | fuel + 1, outer, around, id => do
    match ((← get)[id]?).join, m.object? id with
    | some v, _ => pure (v, true)
    | none, none => pure (.null, false)
    | none, some (.atom v) => pure (v, true)
    | none, some o =>
      if around.contains id then
        pure (.loop (o matches .mapping _), false)
      else do
        let part := unfold m fuel (outer - 1) (if outer = 0 then id :: around else around)
        let parts (es : List (NodeId × NodeId)) := es.mapM fun (a, b) => do
          let (a, wholeA) ← part a
          let (b, wholeB) ← part b
          pure ((a, b), wholeA && wholeB)
        let (v, whole) ←
          match o with
          | .list items => do
            let vs ← items.mapM part
            pure (Value.list (vs.map (·.1)), vs.all (·.2))
          | .pairs items => do
            let vs ← parts items
            pure (Value.list (vs.map fun (e, _) => .pair e.1 e.2), vs.all (·.2))
          | .mapping es => do
            let vs ← parts es
            pure (Value.mapping (vs.map (·.1)), vs.all (·.2))
          | .set members => do
            let vs ← members.mapM part
            pure (Value.setOf (vs.map (·.1)), vs.all (·.2))
          | .atom v => pure (v, true)
        if whole then modify (·.setIfInBounds id (some v))
        pure (v, whole)

/-- The number of levels of a document below which a collection inside itself is cut: the
document itself and the list that it holds. -/
def outerLevels : Nat := 2

/-- The value of a document. -/
def Document.value (d : Document) : Except ReadError Value := do
  let m ← Making.ofDocument d
  let levels := m.nodes.size + outerLevels + 1
  let ((v, _), _) := (m.unfold levels outerLevels [] d.root).run (Array.replicate m.nodes.size none)
  pure v

/-- The value of a text. -/
def parse (s : String) : Except ReadError Value :=
  match Document.ofTokens? (Token.scan s.toList) with
  | .error e => .error e
  | .ok none => .ok .null
  | .ok (some d) => d.value

end MessagePlacement.Yaml
