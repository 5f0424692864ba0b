import MessagePlacement.Number.Numeral

/-!
# Literals

The parameters of an action in a tag are written as a literal: a number, a text or
sequence of bytes between quotes, one of the words `None`, `True` and `False`, three dots, a
tuple, a mapping or set in braces, or the empty set `set()`.  A number may have a sign, and
an imaginary number may be added to or taken from a real one.  `isLiteral` tells whether a
text is one.  The readers return what is left of the text; inside brackets line feeds and
comments count as blanks.  The counter of a reader bounds the steps by the length of the
text.
-/

namespace MessagePlacement.Markup

/-- What matters of a literal where it is part of another: whether it is an imaginary number,
whether it is a number with a sign, and whether it may be a key. -/
inductive Literal where
  | number (imaginary : Bool)
  | signed (imaginary : Bool)
  | value (isKey : Bool)
  deriving DecidableEq, Repr

namespace Literal

/-- Whether a literal may be a key of a mapping or member of a set. -/
def isKey : Literal → Bool
  | .value isKey => isKey
  | _ => true

/-- The text without a comment at its front. -/
def dropComment : List Char → List Char
  | '#' :: cs => cs.dropWhile (· != '\n')
  | cs => cs

/-- Whether a character is blank between the parts of a literal. -/
def isGap (nested : Bool) (c : Char) : Bool :=
  c == ' ' || c == '\t' || c == '\x0c' || (nested && c == '\n')

/-- The text without the blanks and comments at its front. -/
def skipGap (nested : Bool) : Nat → List Char → List Char
  | 0, cs => cs
  | fuel + 1, cs =>
    match dropComment (cs.dropWhile (isGap nested)) with
    | '\\' :: '\n' :: rest => skipGap nested fuel rest
    | '\n' :: rest => if nested then skipGap nested fuel rest else '\n' :: rest
    | rest => rest

/-! ### Numbers -/

/-- The text after the digits of a base at its front, with single underscores between them. -/
def digits? (base : Nat) (cs : List Char) : Option (List Char) :=
  match Numeral.digitRun true base 0 0 cs with
  | (_, 0, _) => none
  | (_, _ + 1, rest) => some rest

/-- The text after the digits at its front, if there are any. -/
def optionalDigits (cs : List Char) : List Char := (digits? 10 cs).getD cs

/-- The text after an exponent at its front, if there is one. -/
def dropExponent (cs : List Char) : List Char :=
  match cs with
  | e :: rest =>
    if e == 'e' || e == 'E' then (digits? 10 (Numeral.sign rest).2).getD cs else cs
  | [] => []

/-- The text after a number in a base that a letter after a zero tells. -/
def based? (base : Nat) : List Char → Option (List Char)
  | '_' :: cs => digits? base cs
  | cs => digits? base cs

/-- The number at the front of a text and the rest. -/
def number? (cs : List Char) : Option (Literal × List Char) :=
  let whole := optionalDigits cs
  let places :=
    match whole with
    | '.' :: rest => optionalDigits rest
    | rest => rest
  let tail := dropExponent places
  let isInteger := tail.length = whole.length
  let written := cs.take (cs.length - whole.length)
  match tail with
  | 'j' :: rest => some (.number true, rest)
  | 'J' :: rest => some (.number true, rest)
  | rest =>
    let isZero := written.all fun c => c == '0' || c == '_'
    if isInteger && written.head? == some '0' && !isZero then none
    else some (.number false, rest)

/-- The base that a letter after a zero tells. -/
def baseOf? (c : Char) : Option Nat :=
  [('x', 16), ('o', 8), ('b', 2)].lookup c.toLower

/-- The number at the front of a text, in a base or not, and the rest. -/
def numberOrBased? (cs : List Char) : Option (Literal × List Char) :=
  match cs with
  | '0' :: m :: rest =>
    match baseOf? m with
    | some base => (based? base rest).map fun rest => (.number false, rest)
    | none => number? cs
  | _ => number? cs

/-! ### Texts -/

/-- The rest after the escape of a character by number, of some hexadecimal digits. -/
def escapeByNumber? (digits : Nat) (cs : List Char) : Option (List Char) :=
  let code := cs.take digits
  if code.length = digits && code.all fun c => (Numeral.digitValue? 16 c).isSome then
    match Numeral.digitRun false 16 0 0 code with
    | (n, _, _) => if n < 0x110000 then some (cs.drop digits) else none
  else
    none

/-- The rest after the escape of a character by name. -/
def escapeByName? (cs : List Char) : Option (List Char) :=
  match cs with
  | '\x7b' :: rest =>
    let name := rest.takeWhile (· != '\x7d')
    if name.isEmpty then none
    else if rest[name.length]? = some '\x7d' then some (rest.drop (name.length + 1)) else none
  | _ => none

/-- The rest after the character that follows a backslash. -/
def escape? (isBytes : Bool) : List Char → Option (List Char)
  | 'x' :: cs => escapeByNumber? 2 cs
  | 'u' :: cs => if isBytes then some cs else escapeByNumber? 4 cs
  | 'U' :: cs => if isBytes then some cs else escapeByNumber? 8 cs
  | 'N' :: cs => if isBytes then some cs else escapeByName? cs
  | _ :: cs => some cs
  | [] => none

/-- The rest after a quoted text, whose opening quotes have been read.  In a raw one a
backslash stands for itself and for the character after it. -/
def quotedRest? (isRaw isBytes isLong : Bool) (quote : Char) :
    Nat → List Char → Option (List Char)
  | 0, _ => none
  | _, [] => none
  | fuel + 1, c :: cs =>
    let continued := quotedRest? isRaw isBytes isLong quote fuel
    if c = quote && (!isLong || cs.take 2 == [quote, quote]) then
      some (if isLong then cs.drop 2 else cs)
    else if c = '\\' then
      if isRaw then (if cs.isEmpty then none else continued (cs.drop 1))
      else (escape? isBytes cs).bind continued
    else if (c = '\n' && !isLong) || (isBytes && 0x80 ≤ c.toNat) then
      none
    else
      continued cs

/-- Whether a text at the front begins with quotes after some letters, and the letters. -/
def quotedStart? (cs : List Char) : Option (List Char) :=
  let letters := (cs.takeWhile Char.isAlpha).map Char.toLower
  match cs.drop letters.length with
  | c :: _ => if c == '\x27' || c == '\x22' then some letters else none
  | [] => none

/-- The letters that may precede quotes, in lower case. -/
def quotePrefixes : List String := ["", "r", "u", "b", "br", "rb"]

/-- Whether a quoted text at the front is a sequence of bytes, and the rest. -/
def quoted? (cs : List Char) : Option (Bool × List Char) := do
  let letters ← quotedStart? cs
  if !quotePrefixes.contains (String.ofList letters) then none
  let isBytes := letters.contains 'b'
  match cs.drop letters.length with
  | quote :: rest =>
    let isLong := rest.take 2 == [quote, quote]
    let rest ← quotedRest? (letters.contains 'r') isBytes isLong quote (rest.length + 1)
      (if isLong then rest.drop 2 else rest)
    some (isBytes, rest)
  | [] => none

/-- The rest after the quoted texts that follow each other, all of the same kind. -/
def quotedRun? (nested isBytes : Bool) : Nat → List Char → Option (List Char)
  | 0, _ => none
  | fuel + 1, cs =>
    let next := skipGap nested cs.length cs
    if (quotedStart? next).isSome then
      match quoted? next with
      | some (kind, rest) => if kind = isBytes then quotedRun? nested isBytes fuel rest else none
      | none => none
    else
      some cs

/-! ### Literals -/

/-- The words that are literals. -/
def constants : List String := ["None", "True", "False"]

/-- The rest after a word or the empty set. -/
def word? (nested : Bool) (cs : List Char) : Option (Literal × List Char) :=
  let name := cs.takeWhile fun c => c.isAlphanum || c == '_' || 0x80 ≤ c.toNat
  let rest := cs.drop name.length
  if constants.contains (String.ofList name) then
    some (.value true, rest)
  else if String.ofList name = "set" then
    match skipGap nested rest.length rest with
    | '(' :: inner =>
      match skipGap true inner.length inner with
      | ')' :: rest => some (.value false, rest)
      | _ => none
    | _ => none
  else
    none

/-- A sum of an imaginary number and a real one with or without a sign. -/
def sum? : Literal → Literal → Option Literal
  | .number false, .number true => some (.value true)
  | .signed false, .number true => some (.value true)
  | _, _ => none

mutual

/-- The literal at the front without sign, and the rest. -/
def atom? (nested : Bool) : Nat → List Char → Option (Literal × List Char)
  | 0, _ => none
  | fuel + 1, cs =>
    if (quotedStart? cs).isSome then do
      let (isBytes, rest) ← quoted? cs
      let rest ← quotedRun? nested isBytes (cs.length + 1) rest
      some (.value true, rest)
    else
      match cs with
      | '.' :: '.' :: '.' :: rest => some (.value true, rest)
      | '(' :: rest => tuple? fuel rest
      | '\x7b' :: rest => braces? fuel rest
      | '.' :: d :: _ => if d.isDigit then number? cs else none
      | c :: _ => if c.isDigit then numberOrBased? cs else word? nested cs
      | [] => none

/-- The literal at the front, and the rest after it and the blanks. -/
def literal? (nested : Bool) : Nat → List Char → Option (Literal × List Char)
  | 0, _ => none
  | fuel + 1, cs => do
    let cs := skipGap nested cs.length cs
    let (hasSign, cs) :=
      match cs with
      | '+' :: rest => (true, skipGap nested rest.length rest)
      | '-' :: rest => (true, skipGap nested rest.length rest)
      | cs => (false, cs)
    let (first, rest) ← atom? nested fuel cs
    let first ←
      match hasSign, first with
      | false, l => some l
      | true, .number imaginary => some (.signed imaginary)
      | true, _ => none
    let rest := skipGap nested rest.length rest
    match rest with
    | c :: more =>
      if c == '+' || c == '-' then do
        let more := skipGap nested more.length more
        let (second, rest) ← atom? nested fuel more
        let l ← sum? first second
        some (l, skipGap nested rest.length rest)
      else
        some (first, rest)
    | [] => some (first, [])

/-- The literals up to a closing bracket with commas between them, and the rest.  It tells
whether there is a comma. -/
def members? (closing : Char) : Nat → List Char → Option (List Literal × Bool × List Char)
  | 0, _ => none
  | fuel + 1, cs =>
    let cs := skipGap true cs.length cs
    match cs with
    | [] => none
    | c :: rest =>
      if c = closing then
        some ([], false, rest)
      else do
        let (l, rest) ← literal? true fuel cs
        match rest with
        | ',' :: rest => do
          let (ls, _, rest) ← members? closing fuel rest
          some (l :: ls, true, rest)
        | c :: rest => if c = closing then some ([l], false, rest) else none
        | [] => none

/-- The entries after another one up to a closing brace, and the rest. -/
def furtherEntries? : Nat → List Char → Option (List Char)
  | 0, _ => none
  | _, '\x7d' :: rest => some rest
  | fuel + 1, ',' :: rest =>
    match skipGap true rest.length rest with
    | '\x7d' :: rest => some rest
    | cs => do
      let (key, rest) ← literal? true fuel cs
      if !key.isKey then none
      match rest with
      | ':' :: rest => do
        let (_, rest) ← literal? true fuel rest
        furtherEntries? fuel rest
      | _ => none
  | _, _ => none

/-- The tuple or single literal after an opening parenthesis, and the rest. -/
def tuple? : Nat → List Char → Option (Literal × List Char)
  | 0, _ => none
  | fuel + 1, cs => do
    let (ls, hasComma, rest) ← members? ')' fuel cs
    match ls, hasComma with
    | [l], false => some (l, rest)
    | ls, _ => some (.value (ls.all isKey), rest)

/-- The mapping or set after an opening brace, and the rest. -/
def braces? : Nat → List Char → Option (Literal × List Char)
  | 0, _ => none
  | fuel + 1, cs =>
    match skipGap true cs.length cs with
    | '\x7d' :: rest => some (.value false, rest)
    | cs => do
      let (first, rest) ← literal? true fuel cs
      if !first.isKey then none
      match rest with
      | ':' :: rest => do
        let (_, rest) ← literal? true fuel rest
        let rest ← furtherEntries? fuel rest
        some (.value false, rest)
      | ',' :: rest => do
        let (ls, _, rest) ← members? '\x7d' fuel rest
        if ls.all isKey then some (.value false, rest) else none
      | '\x7d' :: rest => some (.value false, rest)
      | _ => none

end

/-- The text without the lines at its front that hold only blanks or a comment, or nothing but
the backslash that continues them. -/
def dropEmptyLines : Nat → List Char → List Char
  | 0, cs => cs
  | fuel + 1, '\\' :: '\n' :: rest => dropEmptyLines fuel rest
  | fuel + 1, cs =>
    match dropComment (cs.dropWhile (isGap false)) with
    | '\n' :: rest => dropEmptyLines fuel rest
    | [] => []
    | _ => cs

/-- Whether a text begins with blanks.  Those before a form feed do not count. -/
def isIndented (cs : List Char) : Bool :=
  (cs.takeWhile (isGap false)).getLast?.any (· != '\x0c')

/-- Whether there are literals with commas between them and nothing else in a text. -/
def isSequence : Nat → List Char → Bool
  | 0, _ => false
  | fuel + 1, cs =>
    match literal? false (cs.length * 4 + 8) cs with
    | some (_, ',' :: rest) =>
      let next := skipGap false rest.length rest
      (dropEmptyLines next.length next).isEmpty || isSequence fuel next
    | some (_, rest) => (dropEmptyLines rest.length rest).isEmpty
    | none => false

/-- A text with a line feed at every end of a line. -/
def withLineFeeds : List Char → List Char
  | [] => []
  | '\r' :: '\n' :: cs => '\n' :: withLineFeeds cs
  | c :: cs => (if c = '\r' then '\n' else c) :: withLineFeeds cs

end Literal

/-- Whether a text is a literal or several with commas between them. -/
def isLiteral (text : List Char) : Bool :=
  let cs := Literal.withLineFeeds (text.dropWhile fun c => c == ' ' || c == '\t')
  let cs := Literal.dropEmptyLines cs.length cs
  !text.contains '\x00' && !Literal.isIndented cs
    && Literal.isSequence (cs.length + 1) cs

end MessagePlacement.Markup
