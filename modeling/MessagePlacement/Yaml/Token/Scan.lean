import MessagePlacement.Yaml.Token

/-!
# Scanning a YAML text

`Token.scan` cuts a text into tokens.  Outside brackets the column of a token decides: a
collection begins where an entry stands further to the right than the innermost open
collection, and collections end before a token further to the left.  A key of a mapping
is known as such only by the colon after it, so the place of the last node that may be one
is kept for every open bracket as a `Candidate`; the colon puts the tokens for the key at
that place.  A candidate is given up after the end of its line or 1024 characters, and if
a mapping had to go on there, this is an error.  Where a text can be cut no further, only
the tokens count that no candidate holds back.
-/

namespace MessagePlacement.Yaml

/-- A node that may turn out to be a key: the number of tokens before it, whether it has to
be a key, and where it starts. -/
structure Candidate where
  tokensBefore : Nat
  isRequired : Bool
  index : Nat
  line : Nat
  column : Nat
  deriving DecidableEq, Repr

/-- A text that has been cut up to a position.  The tokens are in reverse, with their number,
and the candidates outside the innermost bracket are in the order from the inside. -/
structure Scan where
  cursor : Cursor
  tokens : List Token := []
  count : Nat := 0
  indent : Int := -1
  outerIndents : List Int := []
  candidate : Option Candidate := none
  outerCandidates : List (Option Candidate) := []
  mayBeKey : Bool := true
  deriving DecidableEq, Repr

namespace Scan

/-- Whether the position is inside brackets. -/
def inFlow (s : Scan) : Bool := !s.outerCandidates.isEmpty

/-- The scan with one more token. -/
def emit (t : Token) (s : Scan) : Scan :=
  { s with tokens := t :: s.tokens, count := s.count + 1 }

/-- The scan moved to a position. -/
def moveTo (c : Cursor) (s : Scan) : Scan := { s with cursor := c }

/-- The scan moved by some characters. -/
def advance (n : Nat) (s : Scan) : Scan := s.moveTo (s.cursor.skip n)

/-- The scan after which a key may begin, or may not. -/
def allowKey (allowed : Bool) (s : Scan) : Scan := { s with mayBeKey := allowed }

/-- The scan with a token that the given number of tokens precede. -/
def insertAt (n : Nat) (t : Token) (s : Scan) : Scan :=
  let later := s.count - n
  { s with
    tokens := s.tokens.take later ++ t :: s.tokens.drop later
    count := s.count + 1 }

/-! ### Indentation -/

/-- The indentations with those further to the right than a column left, and the number left. -/
def closeTo (column : Int) : Int → List Int → Int × List Int × Nat
  | indent, [] => (indent, [], 0)
  | indent, outer :: rest =>
    if column < indent then
      let (i, is, n) := closeTo column outer rest
      (i, is, n + 1)
    else
      (indent, outer :: rest, 0)

/-- The scan with the collections ended that are further to the right than a column. -/
def unwind (column : Int) (s : Scan) : Scan :=
  if s.inFlow then
    s
  else
    let (indent, outer, n) := closeTo column s.indent s.outerIndents
    { s with
      indent := indent
      outerIndents := outer
      tokens := List.replicate n .blockEnd ++ s.tokens
      count := s.count + n }

/-- The scan with a collection begun at a column, opened by a token after the given number of
tokens, unless the innermost one is at that column already. -/
def openAt (column : Nat) (n : Nat) (t : Token) (s : Scan) : Scan :=
  if s.indent < column then
    { s.insertAt n t with indent := column, outerIndents := s.indent :: s.outerIndents }
  else
    s

/-- The scan with a collection begun at the position. -/
def openHere (t : Token) (s : Scan) : Scan :=
  s.openAt s.cursor.column s.count t

/-! ### Candidates -/

/-- Whether a candidate is out of reach. -/
def isStale (c : Cursor) (k : Candidate) : Bool :=
  k.line ≠ c.line || 1024 < c.index - k.index

/-- A candidate, unless it is out of reach. -/
def refresh (c : Cursor) : Option Candidate → Except ReadError (Option Candidate)
  | none => .ok none
  | some k =>
    if isStale c k then (if k.isRequired then .error .malformed else .ok none) else .ok (some k)

/-- The scan without the candidates that are out of reach. -/
def dropStale (s : Scan) : Except ReadError Scan := do
  let outer ← s.outerCandidates.mapM (refresh s.cursor)
  let inner ← refresh s.cursor s.candidate
  pure { s with candidate := inner, outerCandidates := outer }

/-- The scan without its innermost candidate. -/
def dropCandidate (s : Scan) : Except ReadError Scan :=
  if s.candidate.any (·.isRequired) then .error .malformed else .ok { s with candidate := none }

/-- The scan with the node at the position as candidate, if a key may begin there. -/
def noteCandidate (s : Scan) : Except ReadError Scan :=
  if s.mayBeKey then do
    let s ← s.dropCandidate
    let c := s.cursor
    let required := !s.inFlow && s.indent == c.column
    pure { s with candidate := some ⟨s.count, required, c.index, c.line, c.column⟩ }
  else
    pure s

/-! ### Tokens -/

/-- A position after the space, comments and line breaks at the front, and whether there is a
line break among them. -/
def skipFiller : Nat → Bool → Cursor → Bool × Cursor
  | 0, broken, c => (broken, c)
  | fuel + 1, broken, c =>
    let c := (c.skipWhile (· == ' ')).skipComment
    if c.peek.any isBreak then skipFiller fuel true c.lineBreak.2 else (broken, c)

/-- The scan moved to the next token. -/
def toToken (s : Scan) : Scan :=
  let c := s.cursor
  let c := if c.index = 0 && c.peek == some '\ufeff' then c.next else c
  let (broken, c) := skipFiller (c.size + 1) false c
  let s := s.moveTo c
  if broken && !s.inFlow then s.allowKey true else s

/-- The end of all collections at the end of a document. -/
def endDocument (s : Scan) : Except ReadError Scan :=
  ((s.unwind (-1)).allowKey false).dropCandidate

/-- The scan with a token of one character, after which a key may begin or not. -/
def sign (t : Token) (allowed : Bool) (s : Scan) : Except ReadError Scan := do
  let s ← s.dropCandidate
  pure (((s.allowKey allowed).advance 1).emit t)

/-- The scan with an opening bracket. -/
def openFlow (t : Token) (s : Scan) : Except ReadError Scan := do
  let s ← s.noteCandidate
  let s := { s with candidate := none, outerCandidates := s.candidate :: s.outerCandidates }
  pure (((s.allowKey true).advance 1).emit t)

/-- The scan with a closing bracket. -/
def closeFlow (t : Token) (s : Scan) : Except ReadError Scan :=
  match s.outerCandidates with
  | [] => .error .malformed
  | k :: ks => do
    let s ← s.dropCandidate
    let s := { s with candidate := k, outerCandidates := ks }
    pure (((s.allowKey false).advance 1).emit t)

/-- The scan with the sign of an entry or key, which begins a collection outside brackets. -/
def indicator (opening t : Token) (allowed : Bool) (s : Scan) : Except ReadError Scan :=
  if s.inFlow then s.sign t allowed
  else if s.mayBeKey then (s.openHere opening).sign t true
  else .error .malformed

/-- The scan with a colon. -/
def valueSign (s : Scan) : Except ReadError Scan :=
  match s.candidate with
  | some k =>
    let s := { s with candidate := none }
    let s := s.insertAt k.tokensBefore .key
    let s := if s.inFlow then s else s.openAt k.column k.tokensBefore .blockMappingStart
    .ok (((s.allowKey false).advance 1).emit .value)
  | none => s.indicator .blockMappingStart .value false

/-- The scan with a token that may begin a key. -/
def keyed (t : Token) (broken : Bool) (c : Cursor) (s : Scan) : Scan :=
  ((s.allowKey broken).moveTo c).emit t

/-- Whether a plain scalar begins at a position. -/
def beginsPlain (inFlow : Bool) (c : Cursor) : Bool :=
  match c.peek with
  | none => false
  | some ch =>
    !(isSpace ch || isBreak ch || "-?:,[]\x7b\x7d#&*!|>'\"%@\x60".toList.contains ch)
      || (!endsToken (c.peekAt 1) && (ch == '-' || (!inFlow && (ch == '?' || ch == ':'))))

/-- The scan with the scalar, anchor, alias or tag at the position. -/
def nodeToken (ch : Char) (s : Scan) : Except ReadError Scan := do
  if (ch == '|' || ch == '>') && !s.inFlow then
    let s ← (s.allowKey true).dropCandidate
    let (text, c) ← blockScalar (ch == '>') s.indent s.cursor
    pure ((s.moveTo c).emit (.scalar text false))
  else
    let s ← s.noteCandidate
    if ch == '*' then
      let (n, c) ← anchorName s.cursor
      pure (s.keyed (.alias n) false c)
    else if ch == '&' then
      let (n, c) ← anchorName s.cursor
      pure (s.keyed (.anchor n) false c)
    else if ch == '!' then
      let (t, c) ← writtenTag s.cursor
      pure (s.keyed (.tag t) false c)
    else if ch == '\x27' || ch == '\x22' then
      let (text, c) ← quotedScalar ch s.cursor
      pure (s.keyed (.scalar text false) false c)
    else if beginsPlain s.inFlow s.cursor then
      let (text, broken, c) := plainScalar s.inFlow (s.indent + 1) s.cursor
      pure (s.keyed (.scalar text true) broken c)
    else
      .error .malformed

/-- The scan with a directive. -/
def directiveToken (s : Scan) : Except ReadError Scan := do
  let s ← s.endDocument
  let (d, c) ← directive s.cursor
  pure ((s.moveTo c).emit (.directive d))

/-- The scan with a document marker. -/
def marker (t : Token) (s : Scan) : Except ReadError Scan := do
  let s ← s.endDocument
  pure ((s.advance 3).emit t)

/-- The scan with the next token, whose first character is given. -/
def token (ch : Char) (s : Scan) : Except ReadError Scan :=
  let c := s.cursor
  let apart := endsToken (c.peekAt 1)
  if c.column = 0 && ch == '%' then s.directiveToken
  else if c.column = 0 && c.atMarker '-' then s.marker .documentStart
  else if c.column = 0 && c.atMarker '.' then s.marker .documentEnd
  else if ch == '[' then s.openFlow .flowSequenceStart
  else if ch == '\x7b' then s.openFlow .flowMappingStart
  else if ch == ']' then s.closeFlow .flowSequenceEnd
  else if ch == '\x7d' then s.closeFlow .flowMappingEnd
  else if ch == ',' then s.sign .flowEntry true
  else if ch == '-' && apart then s.indicator .blockSequenceStart .blockEntry true
  else if ch == '?' && (s.inFlow || apart) then s.indicator .blockMappingStart .key false
  else if ch == ':' && (s.inFlow || apart) then s.valueSign
  else s.nodeToken ch

/-- The scan with one more token, and whether the text is at its end. -/
def step (s : Scan) : Except ReadError (Scan × Bool) := do
  let s ← s.toToken.dropStale
  let s := s.unwind s.cursor.column
  match s.cursor.peek with
  | none => do
    let s ← s.endDocument
    pure (s.emit .streamEnd, true)
  | some ch => do
    let s ← s.token ch
    pure (s, false)

/-- The number of tokens before the first candidate, in whose place a key may still begin. -/
def settled (s : Scan) : Nat :=
  (s.candidate :: s.outerCandidates).foldl
    (fun n k => (k.filter fun k => !isStale s.cursor k).elim n fun k => min n k.tokensBefore) s.count

/-- The tokens of a scan that cannot be continued: those that are settled. -/
def fail (e : ReadError) (s : Scan) : List Token :=
  (s.tokens.drop (s.count - s.settled)).reverse ++ [.failed e]

/-- The tokens of a scan that is continued to the end of the text. -/
def run : Nat → Scan → List Token
  | 0, s => s.fail .malformed
  | fuel + 1, s =>
    match s.step with
    | .error e => s.fail e
    | .ok (s, true) => s.tokens.reverse
    | .ok (s, false) => run fuel s

end Scan

/-- Whether a character may stand in a text. -/
def isAllowed (c : Char) : Bool :=
  let n := c.toNat
  n == 0x09 || n == 0x0A || n == 0x0D || (0x20 ≤ n && n ≤ 0x7E) || n == 0x85
    || (0xA0 ≤ n && n ≤ 0xD7FF) || (0xE000 ≤ n && n ≤ 0xFFFD) || 0x10000 ≤ n

/-- The tokens of a text. -/
def Token.scan (cs : List Char) : List Token :=
  if cs.all isAllowed then Scan.run (cs.length + 2) { cursor := .ofText cs }
  else [.failed .malformed]

end MessagePlacement.Yaml
