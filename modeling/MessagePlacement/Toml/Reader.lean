import MessagePlacement.Toml.Scalar

/-!
# Reading TOML

`Toml.parse` reads a whole text as a mapping.  A text is a list of statements, each on a
line: an entry, whose key may lead through tables by dots, or the head of a table or of an
item of a list of tables, below which the entries that follow are.  A `Document` keeps the
entries made so far together with the tables that may not be opened again and the values
in brackets, which may not be changed; tables opened by dots join the former when the next
head is met.  A text that is no such list is malformed, and an integer that is too long ends
the reading with a fault.
-/

namespace MessagePlacement.Toml

/-- Entries in the order in which their keys were first given. -/
abbrev Entries := List (Value × Value)

/-- The entries with those at the end of a list of keys changed.  Tables that are missing are
made; a list stands for its last item, if lists may be entered. -/
def changeAt (throughLists : Bool) (f : Entries → Option Entries) :
    List String → Entries → Option Entries
  | [], es => f es
  | k :: ks, es =>
    let put (v : Value) := Value.put (.text k) v es
    match Value.get? k es with
    | none => (changeAt throughLists f ks []).map fun sub => put (.mapping sub)
    | some (.mapping sub) => (changeAt throughLists f ks sub).map fun sub => put (.mapping sub)
    | some (.list xs) =>
      match throughLists, xs.getLast? with
      | true, some (.mapping sub) =>
        (changeAt throughLists f ks sub).map fun sub => put (.list (xs.dropLast ++ [.mapping sub]))
      | _, _ => none
    | some _ => none

/-- The entries with a new one. -/
def addEntry (k : String) (v : Value) (es : Entries) : Option Entries :=
  match Value.get? k es with
  | some _ => none
  | none => some (Value.put (.text k) v es)

/-- The entries with an empty table put at the end of a list of tables. -/
def addItem (k : String) (es : Entries) : Option Entries :=
  match Value.get? k es with
  | none => some (Value.put (.text k) (.list [.mapping []]) es)
  | some (.list xs) => some (Value.put (.text k) (.list (xs ++ [.mapping []])) es)
  | some _ => none

/-- Whether a value is in brackets. -/
def isBracketed : Value → Bool
  | .mapping _ | .list _ => true
  | _ => false

/-- Whether one of the given keys is at the front of a key. -/
def isBelow (keys : List (List String)) (key : List String) : Bool :=
  keys.any (·.isPrefixOf key)

/-! ### Values -/

/-- A text without a comment at its front. -/
def skipComment? (cs : List Char) : Option (List Char) :=
  match cs with
  | '#' :: rest =>
    let comment := rest.takeWhile (· != '\n')
    if comment.any isControl then none else some (rest.drop comment.length)
  | _ => some cs

/-- A text without the space, line feeds and comments at its front. -/
def skipFiller? : Nat → List Char → Option (List Char)
  | 0, _ => none
  | fuel + 1, cs =>
    match cs.dropWhile isFiller with
    | '#' :: rest => (skipComment? ('#' :: rest)).bind (skipFiller? fuel)
    | cs => some cs

/-- A text without the space, line feeds and comments at its front. -/
def skipAll? (cs : List Char) : Option (List Char) :=
  skipFiller? (cs.length + 1) cs

mutual

/-- The value at the front of a text, and the rest. -/
def value : Nat → List Char → Except ReadError (Value × List Char)
  | 0, _ => .error .malformed
  | fuel + 1, cs =>
    match cs with
    | '[' :: cs => do
      match ← required (skipAll? cs) with
      | ']' :: rest => .ok (.list [], rest)
      | cs => items fuel [] cs
    | '\x7b' :: cs =>
      match skipSpace cs with
      | '\x7d' :: rest => .ok (.mapping [], rest)
      | cs => members fuel [] [] cs
    | cs => scalar cs

/-- The rest of a list after some items, in reverse. -/
def items : Nat → List Value → List Char → Except ReadError (Value × List Char)
  | 0, _, _ => .error .malformed
  | fuel + 1, acc, cs => do
    let (v, cs) ← value fuel cs
    match ← required (skipAll? cs) with
    | ']' :: rest => .ok (.list (v :: acc).reverse, rest)
    | ',' :: rest =>
      match ← required (skipAll? rest) with
      | ']' :: rest => .ok (.list (v :: acc).reverse, rest)
      | cs => items fuel (v :: acc) cs
    | _ => .error .malformed

/-- The entry at the front of a text as its key and value, and the rest. -/
def entry : Nat → List Char → Except ReadError (List String × Value × List Char)
  | 0, _ => .error .malformed
  | fuel + 1, cs => do
    match ← required (key? cs) with
    | (k, '=' :: cs) => do
      let (v, cs) ← value fuel (skipSpace cs)
      .ok (k, v, cs)
    | _ => .error .malformed

/-- The rest of a table in braces after some entries, of which those in brackets may not be
changed. -/
def members : Nat → List (List String) → Entries → List Char →
    Except ReadError (Value × List Char)
  | 0, _, _, _ => .error .malformed
  | fuel + 1, closed, es, cs => do
    let (k, v, cs) ← entry fuel cs
    if isBelow closed k then .error .malformed
    let es ← required (changeAt false (addEntry (k.getLastD "") v) k.dropLast es)
    match skipSpace cs with
    | '\x7d' :: rest => .ok (.mapping es, rest)
    | ',' :: rest =>
      members fuel (if isBracketed v then k :: closed else closed) es (skipSpace rest)
    | _ => .error .malformed

end

/-! ### Statements -/

/-- What the statements so far have made: the entries, the tables that may not be opened again,
those that join them at the next head, the values in brackets, and the table below whose head
entries stand. -/
structure Document where
  entries : Entries := []
  opened : List (List String) := []
  dotted : List (List String) := []
  closed : List (List String) := []
  head : List String := []

namespace Document

/-- The document after a head, the tables opened by dots now closed to heads. -/
def settle (d : Document) : Document :=
  { d with opened := d.dotted ++ d.opened, dotted := [] }

/-- The document with a table opened. -/
def openTable? (d : Document) (k : List String) : Option Document := do
  if d.opened.contains k || isBelow d.closed k then none
  let es ← changeAt true some k d.entries
  some { d with entries := es, opened := k :: d.opened, head := k }

/-- The document with a new item of a list of tables. -/
def openItem? (d : Document) (k : List String) : Option Document := do
  if isBelow d.closed k then none
  let es ← changeAt true (addItem (k.getLastD "")) k.dropLast d.entries
  let outside := d.opened.filter fun o => !k.isPrefixOf o
  let closed := d.closed.filter fun o => !k.isPrefixOf o
  some { d with entries := es, opened := k :: outside, closed := closed, head := k }

/-- The keys of the tables that an entry leads through by dots. -/
def through (d : Document) (k : List String) : List (List String) :=
  (List.range (k.length - 1)).map fun i => d.head ++ k.take (i + 1)

/-- The document with an entry. -/
def addEntry? (d : Document) (k : List String) (v : Value) : Option Document := do
  let tables := d.through k
  let parent := d.head ++ k.dropLast
  if tables.any d.opened.contains || isBelow d.closed parent then none
  let es ← changeAt true (addEntry (k.getLastD "") v) parent d.entries
  let closed := if isBracketed v then (d.head ++ k) :: d.closed else d.closed
  some { d with entries := es, dotted := tables ++ d.dotted, closed := closed }

end Document

/-- The document with the statement at the front of a text, and the rest. -/
def statement (d : Document) (cs : List Char) : Except ReadError (Document × List Char) :=
  match cs with
  | '[' :: '[' :: cs => do
    match ← required (key? (skipSpace cs)) with
    | (k, ']' :: ']' :: rest) => required ((d.settle.openItem? k).map (·, rest))
    | _ => .error .malformed
  | '[' :: cs => do
    match ← required (key? (skipSpace cs)) with
    | (k, ']' :: rest) => required ((d.settle.openTable? k).map (·, rest))
    | _ => .error .malformed
  | '#' :: _ => .ok (d, cs)
  | '\n' :: _ => .ok (d, cs)
  | [] => .ok (d, [])
  | cs => do
    let (k, v, rest) ← entry (2 * cs.length + 2) cs
    required ((d.addEntry? k v).map (·, rest))

/-- The document with the statements of a text. -/
def statements : Nat → Document → List Char → Except ReadError Document
  | 0, _, _ => .error .malformed
  | fuel + 1, d, cs => do
    let (d, cs) ← statement d (skipSpace cs)
    match ← required (skipComment? (skipSpace cs)) with
    | [] => .ok d
    | '\n' :: rest => statements fuel d rest
    | _ => .error .malformed

/-- The entries that a whole text denotes. -/
def parse (s : String) : Except ReadError Entries :=
  let cs := s.toList
  (statements (cs.length + 1) {} cs).map (·.entries)

end MessagePlacement.Toml
