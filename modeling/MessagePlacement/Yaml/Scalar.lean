import MessagePlacement.Number.Numeral
import MessagePlacement.Yaml.Cursor

/-!
# Scalars of a YAML text

The readers of the three ways to write a scalar.  A quoted scalar ends at its quote, a
plain scalar where a character or an indentation ends it, a block scalar where its lines
are indented less than its first one.  In all of them line breaks are folded: a single
break within a quoted or plain scalar is a blank and further ones are line feeds, and a
block scalar keeps its breaks or folds them by its style.  The counter of a reader bounds
the steps by the length of the text.
-/

namespace MessagePlacement.Yaml

open Numeral

/-! ### Quoted scalars -/

/-- The character of an escape of one letter. -/
def simpleEscape? : Char → Option Char
  | '0' => some '\x00'
  | 'a' => some '\x07'
  | 'b' => some '\x08'
  | 't' => some '\t'
  | '\t' => some '\t'
  | 'n' => some '\n'
  | 'v' => some '\x0b'
  | 'f' => some '\x0c'
  | 'r' => some '\r'
  | 'e' => some '\x1b'
  | ' ' => some ' '
  | '\x22' => some '\x22'
  | '\\' => some '\\'
  | '/' => some '/'
  | 'N' => some '\x85'
  | '_' => some '\xa0'
  | 'L' => some '\u2028'
  | 'P' => some '\u2029'
  | _ => none

/-- The number of hexadecimal digits of an escape by number. -/
def escapeLength? : Char → Option Nat
  | 'x' => some 2
  | 'u' => some 4
  | 'U' => some 8
  | _ => none

/-- The number written with hexadecimal digits. -/
def hexNumber? (cs : List Char) : Option Nat :=
  cs.foldlM (fun n c => (digitValue? 16 c).map (n * 16 + ·)) 0

/-- The character with a number.  Half of a surrogate pair is none, and numbers beyond the last
code point have none. -/
def character (n : Nat) : Except ReadError Char :=
  if 0xD800 ≤ n ∧ n < 0xE000 then .error (.fault .halfPair)
  else if n < 0x110000 then .ok (Char.ofNat n)
  else if n < 0x80000000 then .error (.fault (.invalidValue "chr() arg not in range(0x110000)"))
  else .error (.fault .overflow)

/-- The breaks of the empty lines after a line break within a quoted scalar. -/
def quotedBreaks : Nat → List Char → Cursor → Except ReadError (List Char × Cursor)
  | 0, acc, c => .ok (acc, c)
  | fuel + 1, acc, c =>
    if c.atSeparator then
      .error .malformed
    else
      let c := c.skipWhile isSpace
      if c.peek.any isBreak then
        let (b, c) := c.lineBreak
        quotedBreaks fuel (acc ++ b) c
      else
        .ok (acc, c)

/-- The escape after a backslash, as the characters that it stands for. -/
def escape (c : Cursor) : Except ReadError (List Char × Cursor) :=
  match c.peek with
  | none => .error .malformed
  | some ch =>
    match simpleEscape? ch, escapeLength? ch with
    | some e, _ => .ok ([e], c.next)
    | none, some n =>
      let digits := c.next.rest.take n
      match hexNumber? digits with
      | some k =>
        if digits.length = n then (character k).map fun e => ([e], c.next.skip n)
        else .error .malformed
      | none => .error .malformed
    | none, none =>
      if isBreak ch then
        let (_, c) := c.lineBreak
        quotedBreaks (c.size + 1) [] c
      else
        .error .malformed

/-- The rest of a quoted scalar after some characters, in reverse. -/
def quotedRest (quote : Char) : Nat → List Char → Cursor → Except ReadError (List Char × Cursor)
  | 0, _, _ => .error .malformed
  | fuel + 1, acc, c =>
    match c.peek with
    | none => .error .malformed
    | some ch =>
      if ch == quote then
        if quote == '\x27' && c.peekAt 1 == some quote then
          quotedRest quote fuel (quote :: acc) (c.skip 2)
        else
          .ok (acc.reverse, c.next)
      else if isSpace ch || isBreak ch then
        let (spaces, c) := c.takeWhile isSpace
        match c.peek with
        | none => .error .malformed
        | some ch =>
          if isBreak ch then
            let (b, c) := c.lineBreak
            match quotedBreaks (c.size + 1) [] c with
            | .error e => .error e
            | .ok (breaks, c) =>
              let first := if b ≠ ['\n'] then b else if breaks.isEmpty then [' '] else []
              quotedRest quote fuel ((first ++ breaks).reverse ++ acc) c
          else
            quotedRest quote fuel (spaces.reverse ++ acc) c
      else if quote == '\x22' && ch == '\\' then
        match escape c.next with
        | .error e => .error e
        | .ok (cs, c) => quotedRest quote fuel (cs.reverse ++ acc) c
      else
        quotedRest quote fuel (ch :: acc) c.next

/-- The quoted scalar whose quote is the next character. -/
def quotedScalar (quote : Char) (c : Cursor) : Except ReadError (String × Cursor) :=
  (quotedRest quote (c.size + 1) [] c.next).map fun (cs, c) => (String.ofList cs, c)

/-! ### Plain scalars -/

/-- Whether a plain scalar is interrupted before the given characters. -/
def endsPlain (inFlow : Bool) (c : Char) (following : Option Char) : Bool :=
  isSpace c || isBreak c
    || (c == ':' && (endsToken following
      || (inFlow && following.any fun f => [',', '[', ']', '\x7b', '\x7d'].contains f)))
    || (inFlow && [',', '?', '[', ']', '\x7b', '\x7d'].contains c)

/-- The characters of a plain scalar up to an interruption. -/
def plainRun (inFlow : Bool) : List Char → List Char
  | [] => []
  | c :: cs => if endsPlain inFlow c cs.head? then [] else c :: plainRun inFlow cs

/-- The breaks of the empty lines after a line break within a plain scalar; none if a
document marker follows. -/
def plainBreaks : Nat → List Char → Cursor → Option (List Char) × Cursor
  | 0, acc, c => (some acc, c)
  | fuel + 1, acc, c =>
    match c.peek with
    | none => (some acc, c)
    | some ch =>
      if ch == ' ' then
        plainBreaks fuel acc c.next
      else if isBreak ch then
        let (b, c) := c.lineBreak
        if c.atSeparator then (none, c) else plainBreaks fuel (acc ++ b) c
      else
        (some acc, c)

/-- What the space after a run of a plain scalar stands for, whether it holds a line break,
and the position after it. -/
def plainSpaces (c : Cursor) : List Char × Bool × Cursor :=
  let (spaces, c) := c.takeWhile (· == ' ')
  if c.peek.any isBreak then
    let (b, c) := c.lineBreak
    if c.atSeparator then
      ([], true, c)
    else
      match plainBreaks (c.size + 1) [] c with
      | (none, c) => ([], true, c)
      | (some breaks, c) =>
        let first := if b ≠ ['\n'] then b else if breaks.isEmpty then [' '] else []
        (first ++ breaks, true, c)
  else
    (spaces, false, c)

/-- The rest of a plain scalar after some characters, in reverse, and the space after them.
It tells whether the last space read holds a line break. -/
def plainRest (inFlow : Bool) (indent : Int) :
    Nat → List Char → List Char → Bool → Cursor → List Char × Bool × Cursor
  | 0, acc, _, broken, c => (acc.reverse, broken, c)
  | fuel + 1, acc, spaces, broken, c =>
    if c.peek == some '#' then
      (acc.reverse, broken, c)
    else
      let run := plainRun inFlow c.rest
      if run.isEmpty then
        (acc.reverse, broken, c)
      else
        let acc := run.reverse ++ spaces.reverse ++ acc
        let (spaces, broken, c) := plainSpaces (c.skip run.length)
        if spaces.isEmpty || c.peek == some '#' || (!inFlow && (c.column : Int) < indent) then
          (acc.reverse, broken, c)
        else
          plainRest inFlow indent fuel acc spaces broken c

/-- The plain scalar at a position, whether a line break follows it, and the position
after both. -/
def plainScalar (inFlow : Bool) (indent : Int) (c : Cursor) : String × Bool × Cursor :=
  let (cs, broken, c) := plainRest inFlow indent (c.size + 1) [] [] false c
  (String.ofList cs, broken, c)

/-! ### Block scalars -/

/-- What a block scalar does with the line breaks at its end. -/
inductive Chomping where
  | clip
  | strip
  | keep
  deriving DecidableEq, Repr

/-- The chomping that a sign asks for. -/
def chomping? : Option Char → Option Chomping
  | some '+' => some .keep
  | some '-' => some .strip
  | _ => none

/-- The indentation that a digit asks for; there is none of zero. -/
def increment? (c : Option Char) : Except ReadError (Option Nat) :=
  match c.bind (digitValue? 10) with
  | some 0 => .error .malformed
  | found => .ok found

/-- The chomping and indentation after the sign of a block scalar, in either order. -/
def blockHeader (c : Cursor) : Except ReadError (Chomping × Option Nat × Cursor) := do
  let (chomping, increment, c) ←
    match chomping? c.peek with
    | some k => do
      let c := c.next
      let increment ← increment? c.peek
      pure (k, increment, if increment.isSome then c.next else c)
    | none => do
      let increment ← increment? c.peek
      if increment.isSome then
        let c := c.next
        match chomping? c.peek with
        | some k => pure (k, increment, c.next)
        | none => pure (.clip, increment, c)
      else
        pure (.clip, none, c)
  if endsWord c.peek then
    let c ← c.endLine
    pure (chomping, increment, c)
  else
    .error .malformed

/-- The line breaks at the start of a block scalar and the greatest indentation among them. -/
def blockStart : Nat → List Char → Nat → Cursor → List Char × Nat × Cursor
  | 0, breaks, widest, c => (breaks, widest, c)
  | fuel + 1, breaks, widest, c =>
    match c.peek with
    | none => (breaks, widest, c)
    | some ch =>
      if ch == ' ' then
        let c := c.next
        blockStart fuel breaks (max widest c.column) c
      else if isBreak ch then
        let (b, c) := c.lineBreak
        blockStart fuel (breaks ++ b) widest c
      else
        (breaks, widest, c)

/-- The position after the blanks at the front of a line, up to an indentation. -/
def skipIndent (indent : Nat) : Nat → Cursor → Cursor
  | 0, c => c
  | fuel + 1, c =>
    if c.column < indent && c.peek == some ' ' then skipIndent indent fuel c.next else c

/-- The line breaks of the empty lines in a block scalar. -/
def blockBreaks (indent : Nat) : Nat → List Char → Cursor → List Char × Cursor
  | 0, acc, c => (acc, c)
  | fuel + 1, acc, c =>
    let c := skipIndent indent indent c
    if c.peek.any isBreak then
      let (b, c) := c.lineBreak
      blockBreaks indent fuel (acc ++ b) c
    else
      (acc, c)

/-- The lines of a block scalar.  It returns the characters in reverse, the break of the
last line, the breaks after it and the position after them. -/
def blockLines (folded : Bool) (indent : Nat) :
    Nat → List Char → List Char → List Char → Cursor → List Char × List Char × List Char × Cursor
  | 0, acc, last, breaks, c => (acc, last, breaks, c)
  | fuel + 1, acc, last, breaks, c =>
    if c.column == indent && c.peek.isSome then
      let flush := !c.peek.any isSpace
      let (line, c) := c.takeWhile (!isBreak ·)
      let acc := line.reverse ++ breaks.reverse ++ acc
      let (last, c) := c.lineBreak
      let (breaks, c) := blockBreaks indent (c.size + 1) [] c
      if c.column == indent && c.peek.isSome then
        let joint :=
          if folded && last == ['\n'] && flush && !c.peek.any isSpace then
            if breaks.isEmpty then [' '] else []
          else
            last
        blockLines folded indent fuel (joint.reverse ++ acc) last breaks c
      else
        (acc, last, breaks, c)
    else
      (acc, last, breaks, c)

/-- The block scalar whose sign is the next character, below a given indentation. -/
def blockScalar (folded : Bool) (parent : Int) (c : Cursor) :
    Except ReadError (String × Cursor) := do
  let (chomping, increment, c) ← blockHeader c.next
  let least := max (parent + 1).toNat 1
  let (breaks, indent, c) :=
    match increment with
    | none =>
      let (breaks, widest, c) := blockStart (c.size + 1) [] 0 c
      (breaks, max least widest, c)
    | some n =>
      let indent := least + n - 1
      let (breaks, c) := blockBreaks indent (c.size + 1) [] c
      (breaks, indent, c)
  let (acc, last, breaks, c) := blockLines folded indent (c.size + 1) [] [] breaks c
  let tail :=
    match chomping with
    | .strip => []
    | .clip => last
    | .keep => last ++ breaks
  pure (String.ofList (acc.reverse ++ tail), c)

end MessagePlacement.Yaml
