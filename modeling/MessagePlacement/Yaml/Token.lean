import MessagePlacement.Text.Utf8
import MessagePlacement.Yaml.Scalar

/-!
# Tokens of a YAML text

A token is a sign, a scalar, or a change of indentation.  An indented collection opens
with a token of its own and closes with `blockEnd`.  `failed` stands where the text can be
cut into tokens no further.  The readers here take the tokens made of several characters
apart from scalars: directives, anchors and tags.
-/

namespace MessagePlacement.Yaml

/-- A line at the head of a document that begins with a percent sign. -/
inductive Directive where
  | version (major minor : Nat)
  | handle (handle expansion : String)
  | reserved
  deriving DecidableEq, Repr

/-- A tag as it is written: whole, or an abbreviation and what follows it. -/
structure WrittenTag where
  handle : Option String
  suffix : String
  deriving DecidableEq, Repr

/-- A token. -/
inductive Token where
  | directive (d : Directive)
  | documentStart
  | documentEnd
  | blockSequenceStart
  | blockMappingStart
  | blockEnd
  | flowSequenceStart
  | flowSequenceEnd
  | flowMappingStart
  | flowMappingEnd
  | blockEntry
  | flowEntry
  | key
  | value
  | alias (name : String)
  | anchor (name : String)
  | tag (t : WrittenTag)
  | scalar (text : String) (isPlain : Bool)
  | streamEnd
  | failed (e : ReadError)
  deriving DecidableEq, Repr

/-- Whether a character may stand in the name of an anchor, directive or handle. -/
def isNameChar (c : Char) : Bool :=
  c.isAlphanum || c == '-' || c == '_'

/-- Whether a character may stand in the address of a tag. -/
def isAddressChar (c : Char) : Bool :=
  c.isAlphanum || "-;/?:@&=+$,_.!~*'()[]%".toList.contains c

/-- A name, which is not empty, and the position after it. -/
def name (c : Cursor) : Except ReadError (String × Cursor) :=
  match c.takeWhile isNameChar with
  | ([], _) => .error .malformed
  | (cs, c) => .ok (String.ofList cs, c)

/-- The position, if a blank follows or the line ends. -/
def wordEnd (c : Cursor) : Except ReadError Cursor :=
  if endsWord c.peek then .ok c else .error .malformed

/-- The name of the anchor or alias whose sign is the next character. -/
def anchorName (c : Cursor) : Except ReadError (String × Cursor) := do
  let (s, c) ← name c.next
  if endsToken c.peek || c.peek.any fun ch => "?:,]\x7d%@\x60".toList.contains ch then
    pure (s, c)
  else
    .error .malformed

/-! ### Tags -/

/-- The bytes at the front of a text written by percent signs and two digits, and the number
of them. -/
def escapedBytes : Nat → List Char → Except ReadError (List UInt8)
  | 0, _ => .ok []
  | fuel + 1, '%' :: a :: b :: cs =>
    match hexNumber? [a, b] with
    | some n => (escapedBytes fuel cs).map (n.toUInt8 :: ·)
    | none => .error .malformed
  | _, '%' :: _ => .error .malformed
  | _, _ => .ok []

/-- The characters of an address, in which escaped bytes encode characters. -/
def addressChars : Nat → Cursor → Except ReadError (List Char × Cursor)
  | 0, c => .ok ([], c)
  | fuel + 1, c =>
    match c.peek with
    | none => .ok ([], c)
    | some ch =>
      if ch == '%' then do
        let bytes ← escapedBytes c.size c.rest
        match Text.decode? (ByteArray.mk bytes.toArray) with
        | none => .error .malformed
        | some s => do
          let (cs, c) ← addressChars fuel (c.skip (3 * bytes.length))
          pure (s.toList ++ cs, c)
      else if isAddressChar ch then do
        let (cs, c) ← addressChars fuel c.next
        pure (ch :: cs, c)
      else
        .ok ([], c)

/-- An address, which is not empty, and the position after it. -/
def address (c : Cursor) : Except ReadError (String × Cursor) := do
  let (cs, c') ← addressChars (c.size + 1) c
  if c'.size = c.size then .error .malformed else pure (String.ofList cs, c')

/-- A handle between exclamation marks, or one mark before a blank. -/
def handle (c : Cursor) : Except ReadError (String × Cursor) :=
  if c.peek ≠ some '!' then
    .error .malformed
  else if c.peekAt 1 == some ' ' then
    .ok ("!", c.next)
  else
    let (cs, c) := c.next.takeWhile isNameChar
    if c.peek = some '!' then .ok (String.ofList ('!' :: cs ++ ['!']), c.next)
    else .error .malformed

/-- The tag at a position. -/
def writtenTag (c : Cursor) : Except ReadError (WrittenTag × Cursor) := do
  let (t, c) ←
    if c.peekAt 1 == some '<' then do
      let (suffix, c) ← address (c.skip 2)
      if c.peek = some '>' then pure (⟨none, suffix⟩, c.next) else .error .malformed
    else if endsToken (c.peekAt 1) then
      pure (⟨none, "!"⟩, c.next)
    else if (c.next.rest.takeWhile fun ch => !endsWord (some ch)).contains '!' then do
      let (h, c) ← handle c
      let (suffix, c) ← address c
      pure (⟨some h, suffix⟩, c)
    else do
      let (suffix, c) ← address c.next
      pure (⟨some "!", suffix⟩, c)
  let c ← wordEnd c
  pure (t, c)

/-! ### Directives -/

/-- A number, which has at least one digit, and the position after it. -/
def versionNumber (c : Cursor) : Except ReadError (Nat × Cursor) :=
  match Numeral.digitRun false 10 0 0 c.rest with
  | (_, 0, _) => .error .malformed
  | (n, k, _) => .ok (n, c.skip k)

/-- The position after the blanks at the front. -/
def skipBlanks (c : Cursor) : Cursor := c.skipWhile (· == ' ')

/-- The directive whose percent sign is the next character, with the rest of its line. -/
def directive (c : Cursor) : Except ReadError (Directive × Cursor) := do
  let (s, c) ← name c.next
  let c ← wordEnd c
  let (d, c) ←
    if s = "YAML" then do
      let (major, c) ← versionNumber (skipBlanks c)
      if c.peek ≠ some '.' then .error .malformed
      let (minor, c) ← versionNumber c.next
      let c ← wordEnd c
      pure (.version major minor, c)
    else if s = "TAG" then do
      let (h, c) ← handle (skipBlanks c)
      if c.peek ≠ some ' ' then .error .malformed
      let (expansion, c) ← address (skipBlanks c)
      let c ← wordEnd c
      pure (.handle h expansion, c)
    else
      pure (.reserved, c.skipWhile (!isBreak ·))
  let c ← c.endLine
  pure (d, c)

end MessagePlacement.Yaml
