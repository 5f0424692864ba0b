import MessagePlacement.Document.Value
import MessagePlacement.Fault
import MessagePlacement.Number.Numeral

/-!
# Reading JSON

`parse` reads a whole text as one JSON value.  Beyond the standard it knows `NaN`,
`Infinity` and `-Infinity`; a number with a fraction or an exponent is a floating point
number and any other an integer, which may not have too many digits.  When a key of an
object occurs again, the last value counts, in the place of the first occurrence.  Two
escaped surrogates that form a pair are one character; half of a pair is none, and ends
the reading with a fault, as an integer does that is too long.  The readers of parts
return what is left of the text; the counter that bounds the nesting is twice the length
of the text, which no reading uses up.
-/

namespace MessagePlacement.Json

open Numeral

/-- Whether a character may stand between tokens. -/
def isSpace (c : Char) : Bool :=
  c == ' ' || c == '\t' || c == '\n' || c == '\r'

/-- A text without the space at its front. -/
def skipSpace (cs : List Char) : List Char :=
  cs.dropWhile isSpace

/-- The number written with four hexadecimal digits. -/
def fourDigits? (a b c d : Char) : Option Nat := do
  let a ← digitValue? 16 a
  let b ← digitValue? 16 b
  let c ← digitValue? 16 c
  let d ← digitValue? 16 d
  pure (((a * 16 + b) * 16 + c) * 16 + d)

/-- The character of an escape of one letter. -/
def simpleEscape? : Char → Option Nat
  | '\x22' => some 0x22
  | '\\' => some 0x5C
  | '/' => some 0x2F
  | 'b' => some 0x08
  | 'f' => some 0x0C
  | 'n' => some 0x0A
  | 'r' => some 0x0D
  | 't' => some 0x09
  | _ => none

/-- The code units of a string up to its closing quote, and the rest. -/
def stringUnits? (acc : List Nat) : List Char → Option (List Nat × List Char)
  | [] => none
  | '\x22' :: cs => some (acc.reverse, cs)
  | '\\' :: 'u' :: a :: b :: c :: d :: cs =>
    match fourDigits? a b c d with
    | some n => stringUnits? (n :: acc) cs
    | none => none
  | '\\' :: c :: cs =>
    match simpleEscape? c with
    | some n => stringUnits? (n :: acc) cs
    | none => none
  | c :: cs => if c.toNat < 0x20 then none else stringUnits? (c.toNat :: acc) cs

/-- The characters that code units stand for, if none of them is half of a pair. -/
def joinSurrogates? : List Nat → Option (List Char)
  | [] => some []
  | [n] => if 0xD800 ≤ n ∧ n < 0xE000 then none else some [Char.ofNat n]
  | m :: n :: ns =>
    if 0xD800 ≤ m ∧ m < 0xDC00 ∧ 0xDC00 ≤ n ∧ n < 0xE000 then
      (joinSurrogates? ns).map (Char.ofNat (0x10000 + (m - 0xD800) * 0x400 + (n - 0xDC00)) :: ·)
    else if 0xD800 ≤ m ∧ m < 0xE000 then
      none
    else
      (joinSurrogates? (n :: ns)).map (Char.ofNat m :: ·)

/-- The string whose opening quote has been read, and the rest. -/
def string (cs : List Char) : Except ReadError (String × List Char) :=
  match stringUnits? [] cs with
  | none => .error .malformed
  | some (units, rest) =>
    match joinSurrogates? units with
    | none => .error (.fault .halfPair)
    | some chars => .ok (String.ofList chars, rest)

/-- The fraction at the front of a text: all digits so far, the number of places, the rest. -/
def fraction? (whole : Nat) : List Char → Option (Nat × Nat × List Char)
  | '.' :: cs =>
    match digitRun false 10 whole 0 cs with
    | (_, 0, _) => none
    | found => some found
  | _ => none

/-- The exponent at the front of a text, and the rest. -/
def exponent? : List Char → Option (Int × List Char)
  | c :: cs =>
    if c = 'e' ∨ c = 'E' then
      let (negative, cs) := sign cs
      match digitRun false 10 0 0 cs with
      | (_, 0, _) => none
      | (n, _, rest) => some (if negative then -(n : Int) else n, rest)
    else
      none
  | [] => none

/-- The digits before a fraction, a zero alone or digits of which the first is no zero: their
value, their number and the rest. -/
def whole? : List Char → Option (Nat × Nat × List Char)
  | '0' :: cs => some (0, 1, cs)
  | cs =>
    match digitRun false 10 0 0 cs with
    | (_, 0, _) => none
    | found => some found

/-- The number at the front of a text whose sign has been read, and the rest. -/
def number (negative : Bool) (cs : List Char) : Except ReadError (Value × List Char) :=
  match whole? cs with
  | none => .error .malformed
  | some (whole, count, cs) =>
    let (digits, places, cs', fractional) :=
      match fraction? whole cs with
      | some (digits, places, rest) => (digits, places, rest, true)
      | none => (whole, 0, cs, false)
    match exponent? cs' with
    | some (e, rest) => .ok (.float (.ofDecimal negative digits (e - places)), rest)
    | none =>
      if fractional then .ok (.float (.ofDecimal negative digits (-(places : Int))), cs')
      else if Fault.mostDigits < count then .error (.fault (.overlongInteger count))
      else .ok (.int (if negative then -(whole : Int) else whole), cs')

/-- The value that a word at the front of a text stands for, and the rest. -/
def word (word : String) (v : Value) (cs : List Char) : Except ReadError (Value × List Char) :=
  if word.toList.isPrefixOf cs then .ok (v, cs.drop word.toList.length) else .error .malformed

/-- The value of a word or number at the front of a text, and the rest. -/
def atom (cs : List Char) : Except ReadError (Value × List Char) :=
  match cs with
  | 'n' :: _ => word "null" .null cs
  | 't' :: _ => word "true" (.bool true) cs
  | 'f' :: _ => word "false" (.bool false) cs
  | 'N' :: _ => word "NaN" (.float .nan) cs
  | 'I' :: _ => word "Infinity" (.float (.infinite false)) cs
  | '-' :: 'I' :: _ => word "-Infinity" (.float (.infinite true)) cs
  | '-' :: cs => number true cs
  | cs => number false cs

mutual

/-- The value at the front of a text, and the rest. -/
def value : Nat → List Char → Except ReadError (Value × List Char)
  | 0, _ => .error .malformed
  | fuel + 1, cs =>
    match cs with
    | '\x22' :: cs => (string cs).map fun (s, rest) => (.text s, rest)
    | '[' :: cs =>
      match skipSpace cs with
      | ']' :: rest => .ok (.list [], rest)
      | cs => elements fuel [] cs
    | '\x7b' :: cs =>
      match skipSpace cs with
      | '\x7d' :: rest => .ok (.mapping [], rest)
      | cs => members fuel [] cs
    | cs => atom cs

/-- The rest of an array after some elements, in reverse. -/
def elements : Nat → List Value → List Char → Except ReadError (Value × List Char)
  | 0, _, _ => .error .malformed
  | fuel + 1, acc, cs =>
    match value fuel cs with
    | .error e => .error e
    | .ok (v, cs) =>
      match skipSpace cs with
      | ',' :: cs => elements fuel (v :: acc) (skipSpace cs)
      | ']' :: cs => .ok (.list (v :: acc).reverse, cs)
      | _ => .error .malformed

/-- The rest of an object after some members. -/
def members : Nat → List (Value × Value) → List Char → Except ReadError (Value × List Char)
  | 0, _, _ => .error .malformed
  | fuel + 1, entries, cs =>
    match cs with
    | '\x22' :: cs =>
      match string cs with
      | .error e => .error e
      | .ok (key, cs) =>
        match skipSpace cs with
        | ':' :: cs =>
          match value fuel (skipSpace cs) with
          | .error e => .error e
          | .ok (v, cs) =>
            match skipSpace cs with
            | ',' :: cs => members fuel (Value.put (.text key) v entries) (skipSpace cs)
            | '\x7d' :: cs => .ok (.mapping (Value.put (.text key) v entries), cs)
            | _ => .error .malformed
        | _ => .error .malformed
    | _ => .error .malformed

end

/-- The value that a whole text denotes. -/
def parse (s : String) : Except ReadError Value :=
  let cs := s.toList
  match value (2 * cs.length + 2) (skipSpace cs) with
  | .error e => .error e
  | .ok (v, rest) => if (skipSpace rest).isEmpty then .ok v else .error .malformed

/-- The value that a whole text denotes, if it denotes one. -/
def parse? (s : String) : Option Value :=
  (parse s).toOption

end MessagePlacement.Json
