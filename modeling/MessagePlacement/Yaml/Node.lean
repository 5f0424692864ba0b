import MessagePlacement.Yaml.Tag
import MessagePlacement.Yaml.Token.Scan

/-!
# Nodes of a YAML text

A node is a scalar, a sequence or a mapping with its tag.  The nodes of a text are numbered
in the order in which they begin, and a collection holds the numbers of its parts: a name
that an anchor gives to a node stands for the same node everywhere after it, also inside
the node itself.  `Document.ofTokens?` reads the tokens of a text with at most one document.
The readers of parts pass on a `Reading`, the tokens left and the nodes met so far; the
counter of a reader bounds the steps by the number of tokens.
-/

namespace MessagePlacement.Yaml

/-- The number of a node among the nodes of its text. -/
abbrev NodeId := Nat

/-- A node with its tag. -/
inductive Node where
  | scalar (tag : Tag) (text : String)
  | sequence (tag : Tag) (items : List NodeId)
  | mapping (tag : Tag) (entries : List (NodeId × NodeId))
  deriving DecidableEq, Repr

/-- The tag of a node. -/
def Node.tag : Node → Tag
  | .scalar t _ => t
  | .sequence t _ => t
  | .mapping t _ => t

/-- A node with another tag. -/
def Node.withTag (t : Tag) : Node → Node
  | .scalar _ text => .scalar t text
  | .sequence _ items => .sequence t items
  | .mapping _ entries => .mapping t entries

/-- The tokens left, the nodes met so far by their numbers, and the nodes that have names. -/
structure Reading where
  tokens : List Token
  nodes : Array Node := #[]
  anchors : List (String × NodeId) := []

namespace Reading

/-- The reading before other tokens. -/
def before (ts : List Token) (r : Reading) : Reading := { r with tokens := ts }

/-- The number of one more node, and the reading with it. -/
def add (n : Node) (r : Reading) : NodeId × Reading :=
  (r.nodes.size, { r with nodes := r.nodes.push n })

/-- The reading with one more node that has nothing written. -/
def addEmpty (r : Reading) : NodeId × Reading := r.add (.scalar .null "")

/-- The reading with a node in the place of another. -/
def set (id : NodeId) (n : Node) (r : Reading) : Reading :=
  { r with nodes := r.nodes.setIfInBounds id n }

/-- The reading after which a name stands for a node. -/
def name (anchor : Option String) (id : NodeId) (r : Reading) : Reading :=
  match anchor with
  | none => r
  | some a => { r with anchors := (a, id) :: r.anchors }

/-- The reading with one more node that may have a name. -/
def addNamed (anchor : Option String) (n : Node) (r : Reading) : NodeId × Reading :=
  let (id, r) := r.add n
  (id, r.name anchor id)

end Reading

/-- The expansions of abbreviated tags. -/
abbrev Handles := List (String × String)

namespace Document

/-- The error for tokens that do not fit. -/
def unexpected : List Token → ReadError
  | .failed e :: _ => e
  | _ => .malformed

/-- The address of a written tag. -/
def expand (handles : Handles) (t : WrittenTag) : Except ReadError String :=
  match t.handle with
  | none => .ok t.suffix
  | some h => (handles.lookup h).elim (.error .malformed) fun e => .ok (e ++ t.suffix)

/-- The anchor and the address of the tag before a node, in either order, and the tokens after
them. -/
def properties (handles : Handles) :
    List Token → Except ReadError (Option String × Option String × List Token)
  | .anchor a :: .tag t :: ts => (expand handles t).map fun address => (some a, some address, ts)
  | .tag t :: .anchor a :: ts => (expand handles t).map fun address => (some a, some address, ts)
  | .tag _ :: .failed e :: _ => .error e
  | .anchor a :: ts => .ok (some a, none, ts)
  | .tag t :: ts => (expand handles t).map fun address => (none, some address, ts)
  | ts => .ok (none, none, ts)

/-- The address of a tag, unless it is the exclamation mark that leaves the choice open. -/
def chosen : Option String → Option String
  | some "!" => none
  | address => address

/-- The tag of a collection. -/
def collectionTag (implied : Tag) (address : Option String) : Tag :=
  (chosen address).elim implied Tag.ofAddress

/-- The tag of a scalar. -/
def scalarTag (text : String) (isPlain : Bool) : Option String → Tag
  | none => if isPlain then Tag.ofPlain text else .text
  | some "!" => Tag.ofPlain text
  | some address => Tag.ofAddress address

/-- Whether a token ends an entry of a block sequence. -/
def endsBlockItem : Token → Bool
  | .blockEntry | .blockEnd => true
  | _ => false

/-- Whether a token ends an entry of a sequence that is indented no further than its mapping. -/
def endsFlatItem : Token → Bool
  | .blockEntry | .key | .value | .blockEnd => true
  | _ => false

/-- Whether a token ends a key or value of a block mapping. -/
def endsBlockPart : Token → Bool
  | .key | .value | .blockEnd => true
  | _ => false

/-- Whether a token ends a key inside the given closing bracket. -/
def endsFlowKey (closing : Token) (t : Token) : Bool :=
  t == .value || t == .flowEntry || t == closing

/-- Whether a token ends a value inside the given closing bracket. -/
def endsFlowValue (closing : Token) (t : Token) : Bool :=
  t == .flowEntry || t == closing

/-- The tokens after the sign between entries in brackets, which the first entry has not. -/
def afterSeparator : Bool → List Token → Except ReadError (List Token)
  | true, ts => .ok ts
  | false, .flowEntry :: ts => .ok ts
  | false, ts => .error (unexpected ts)

/-- Whether a sequence begins at a token: in brackets, at a first sign of an entry, or, where
it need not be indented, at any such sign. -/
def beginsSequence (block flat : Bool) : Token → Bool
  | .flowSequenceStart => true
  | .blockSequenceStart => block
  | .blockEntry => flat
  | _ => false

/-- Whether a mapping begins at a token. -/
def beginsMapping (block : Bool) : Token → Bool
  | .flowMappingStart => true
  | .blockMappingStart => block
  | _ => false

mutual

/-- The node at the front, where a block collection may stand, and a sequence that is
indented no further than its mapping. -/
def read (handles : Handles) (block flat : Bool) :
    Nat → Reading → Except ReadError (NodeId × Reading)
  | 0, _ => .error .malformed
  | fuel + 1, r =>
    match r.tokens with
    | .alias a :: ts =>
      (r.anchors.lookup a).elim (.error .malformed) fun id => .ok (id, r.before ts)
    | tokens => do
      let (anchor, address, tokens) ← properties handles tokens
      match tokens with
      | [] => .error .malformed
      | .failed e :: _ => .error e
      | t :: ts => do
        if anchor.any fun a => (r.anchors.lookup a).isSome then .error .malformed
        match t with
        | .scalar text isPlain =>
          pure ((r.before ts).addNamed anchor (.scalar (scalarTag text isPlain address) text))
        | t =>
          if beginsSequence block flat t then do
            let tag := collectionTag .sequence address
            let (id, r) := (r.before ts).addNamed anchor (.sequence tag [])
            let (items, r) ←
              match t with
              | .flowSequenceStart => flowItems handles fuel true r
              | .blockEntry => blockItems handles true fuel (r.before (t :: ts))
              | _ => blockItems handles false fuel r
            pure (id, r.set id (.sequence tag items))
          else if beginsMapping block t then do
            let tag := collectionTag .mapping address
            let (id, r) := (r.before ts).addNamed anchor (.mapping tag [])
            let (entries, r) ←
              match t with
              | .flowMappingStart => flowEntries handles fuel true r
              | _ => blockEntries handles fuel r
            pure (id, r.set id (.mapping tag entries))
          else if anchor.isNone && address.isNone then
            .error .malformed
          else
            let tag := (chosen address).elim .null Tag.ofAddress
            pure ((r.before (t :: ts)).addNamed anchor (.scalar tag ""))

/-- The node at the front, or an empty one before a token that ends the part. -/
def part (handles : Handles) (block flat : Bool) (ends : Token → Bool) :
    Nat → Reading → Except ReadError (NodeId × Reading)
  | 0, _ => .error .malformed
  | fuel + 1, r =>
    if r.tokens.head?.any ends then .ok r.addEmpty else read handles block flat fuel r

/-- The entries of a block sequence. -/
def blockItems (handles : Handles) (flat : Bool) :
    Nat → Reading → Except ReadError (List NodeId × Reading)
  | 0, _ => .error .malformed
  | fuel + 1, r =>
    match r.tokens with
    | .blockEntry :: ts => do
      let ends := if flat then endsFlatItem else endsBlockItem
      let (id, r) ← part handles true false ends fuel (r.before ts)
      let (ids, r) ← blockItems handles flat fuel r
      pure (id :: ids, r)
    | .blockEnd :: ts => .ok ([], if flat then r else r.before ts)
    | .failed e :: _ => .error e
    | _ => if flat then .ok ([], r) else .error .malformed

/-- The value after a key, inside brackets or not. -/
def valuePart (handles : Handles) (block : Bool) (ends : Token → Bool) :
    Nat → Reading → Except ReadError (NodeId × Reading)
  | 0, _ => .error .malformed
  | fuel + 1, r =>
    match r.tokens with
    | .value :: ts => part handles block block ends fuel (r.before ts)
    | .failed e :: _ => .error e
    | _ => .ok r.addEmpty

/-- The entries of a block mapping. -/
def blockEntries (handles : Handles) :
    Nat → Reading → Except ReadError (List (NodeId × NodeId) × Reading)
  | 0, _ => .error .malformed
  | fuel + 1, r =>
    match r.tokens with
    | .key :: ts => do
      let (k, r) ← part handles true true endsBlockPart fuel (r.before ts)
      let (v, r) ← valuePart handles true endsBlockPart fuel r
      let (es, r) ← blockEntries handles fuel r
      pure ((k, v) :: es, r)
    | .blockEnd :: ts => .ok ([], r.before ts)
    | tokens => .error (unexpected tokens)

/-- The entries of a sequence in brackets. -/
def flowItems (handles : Handles) :
    Nat → Bool → Reading → Except ReadError (List NodeId × Reading)
  | 0, _, _ => .error .malformed
  | fuel + 1, isFirst, r =>
    match r.tokens with
    | .flowSequenceEnd :: ts => .ok ([], r.before ts)
    | tokens => do
      let tokens ← afterSeparator isFirst tokens
      match tokens with
      | .flowSequenceEnd :: ts => pure ([], r.before ts)
      | .key :: ts => do
        let (id, r) := (r.before ts).add (.mapping .mapping [])
        let (e, r) ← flowEntry handles .flowSequenceEnd fuel r
        let (ids, r) ← flowItems handles fuel false (r.set id (.mapping .mapping [e]))
        pure (id :: ids, r)
      | ts => do
        let (id, r) ← read handles false false fuel (r.before ts)
        let (ids, r) ← flowItems handles fuel false r
        pure (id :: ids, r)

/-- The key and value after the sign of a key, inside the given closing bracket. -/
def flowEntry (handles : Handles) (closing : Token) :
    Nat → Reading → Except ReadError ((NodeId × NodeId) × Reading)
  | 0, _ => .error .malformed
  | fuel + 1, r => do
    let (k, r) ← part handles false false (endsFlowKey closing) fuel r
    let (v, r) ← valuePart handles false (endsFlowValue closing) fuel r
    pure ((k, v), r)

/-- The entries of a mapping in braces. -/
def flowEntries (handles : Handles) :
    Nat → Bool → Reading → Except ReadError (List (NodeId × NodeId) × Reading)
  | 0, _, _ => .error .malformed
  | fuel + 1, isFirst, r =>
    match r.tokens with
    | .flowMappingEnd :: ts => .ok ([], r.before ts)
    | tokens => do
      let tokens ← afterSeparator isFirst tokens
      match tokens with
      | .flowMappingEnd :: ts => pure ([], r.before ts)
      | .key :: ts => do
        let (e, r) ← flowEntry handles .flowMappingEnd fuel (r.before ts)
        let (es, r) ← flowEntries handles fuel false r
        pure (e :: es, r)
      | ts => do
        let (k, r) ← read handles false false fuel (r.before ts)
        let (v, r) := r.addEmpty
        let (es, r) ← flowEntries handles fuel false r
        pure ((k, v) :: es, r)

end

/-! ### Documents -/

/-- The expansions of abbreviated tags that need no directive. -/
def defaultHandles : Handles := [("!", "!"), ("!!", Tag.base)]

/-- The expansions given by the directives at the front, and the tokens after them. -/
def directives (versioned : Bool) (handles : Handles) :
    List Token → Except ReadError (Handles × List Token)
  | .directive (.version major _) :: ts =>
    if versioned || major ≠ 1 then .error .malformed else directives true handles ts
  | .directive (.handle h expansion) :: ts =>
    if (handles.lookup h).isSome then .error .malformed
    else directives versioned ((h, expansion) :: handles) ts
  | .directive .reserved :: ts => directives versioned handles ts
  | ts => .ok (handles ++ defaultHandles, ts)

/-- Whether a token ends a document. -/
def endsDocument : Token → Bool
  | .directive _ | .documentStart | .documentEnd | .streamEnd => true
  | _ => false

end Document

/-- The nodes of a document and the number of its root. -/
structure Document where
  nodes : Array Node
  root : NodeId
  deriving Repr

namespace Document

/-- The document that is read, if no other one follows. -/
def alone (id : NodeId) (r : Reading) : Except ReadError Document :=
  match r.tokens.dropWhile (· == .documentEnd) with
  | .streamEnd :: _ => .ok ⟨r.nodes, id⟩
  | ts => do
    let (_, ts) ← directives false [] ts
    .error (unexpected ts)

/-- The only document of a text, if there is one. -/
def ofTokens? (tokens : List Token) : Except ReadError (Option Document) := do
  let fuel := 5 * tokens.length + 5
  match tokens with
  | .streamEnd :: _ => pure none
  | .directive _ :: _ | .documentStart :: _ => do
    let (handles, tokens) ← directives false [] tokens
    match tokens with
    | .documentStart :: ts => do
      let (id, r) ← part handles true false endsDocument fuel { tokens := ts }
      (alone id r).map some
    | ts => .error (unexpected ts)
  | _ => do
    let (id, r) ← read defaultHandles true false fuel { tokens := tokens }
    (alone id r).map some

end Document

end MessagePlacement.Yaml
