import MessagePlacement.Document.Value
import MessagePlacement.Fault
import MessagePlacement.Number.Numeral

/-!
# Scalars of a TOML text

The readers of the keys and values that have no parts: strings in four forms, numbers,
truth values, dates and times.  Each returns what is left of the text, and fails if no
such scalar is at the front.  An integer that is written in base ten may not have too many
digits.
-/

namespace MessagePlacement.Toml

open Numeral

/-- Whether a character is a blank or a tabulation. -/
def isSpace (c : Char) : Bool := c == ' ' || c == '\t'

/-- Whether a character is a blank, a tabulation or a line feed. -/
def isFiller (c : Char) : Bool := isSpace c || c == '\n'

/-- A text without the blanks and tabulations at its front. -/
def skipSpace (cs : List Char) : List Char := cs.dropWhile isSpace

/-- Whether a character may not stand in a comment or string. -/
def isControl (c : Char) : Bool :=
  (c.toNat < 0x20 && c != '\t') || c == '\x7f'

/-! ### Strings -/

/-- The character of an escape of one letter. -/
def simpleEscape? : Char → Option Char
  | 'b' => some '\x08'
  | 't' => some '\t'
  | 'n' => some '\n'
  | 'f' => some '\x0c'
  | 'r' => some '\r'
  | '\x22' => some '\x22'
  | '\\' => some '\\'
  | _ => none

/-- The character with a number of the given count of hexadecimal digits, and the rest. -/
def numbered? (count : Nat) (cs : List Char) : Option (Char × List Char) := do
  let digits := cs.take count
  let n ← digits.foldlM (fun n c => (digitValue? 16 c).map (n * 16 + ·)) 0
  if digits.length = count ∧ (n < 0xD800 ∨ (0xE000 ≤ n ∧ n < 0x110000)) then
    some (Char.ofNat n, cs.drop count)
  else
    none

/-- The rest of a text after a backslash at the end of a line, without the space that follows. -/
def joinLines? (cs : List Char) : Option (List Char) :=
  match skipSpace cs with
  | [] => some []
  | '\n' :: rest => some (rest.dropWhile isFiller)
  | _ => none

/-- The escape after a backslash, as the characters it stands for, and the rest. -/
def escape? (multiline : Bool) : List Char → Option (List Char × List Char)
  | 'u' :: cs => (numbered? 4 cs).map fun (c, rest) => ([c], rest)
  | 'U' :: cs => (numbered? 8 cs).map fun (c, rest) => ([c], rest)
  | c :: cs =>
    if multiline && isFiller c then (joinLines? (c :: cs)).map fun rest => ([], rest)
    else (simpleEscape? c).map fun e => ([e], cs)
  | [] => none

/-- The rest of a string with escapes after some characters, in reverse. -/
def basicRest? (multiline : Bool) : Nat → List Char → List Char → Option (List Char × List Char)
  | 0, _, _ => none
  | fuel + 1, acc, cs =>
    match cs with
    | [] => none
    | '\x22' :: '\x22' :: '\x22' :: rest =>
      if multiline then some (acc.reverse, rest) else some (acc.reverse, '\x22' :: '\x22' :: rest)
    | '\x22' :: rest =>
      if multiline then basicRest? multiline fuel ('\x22' :: acc) rest else some (acc.reverse, rest)
    | '\\' :: rest =>
      match escape? multiline rest with
      | none => none
      | some (e, rest) => basicRest? multiline fuel (e.reverse ++ acc) rest
    | c :: rest =>
      if isControl c && !(multiline && c == '\n') then none
      else basicRest? multiline fuel (c :: acc) rest

/-- The string with escapes whose opening quotes have been read, and the rest. -/
def basic? (multiline : Bool) (cs : List Char) : Option (List Char × List Char) :=
  basicRest? multiline (cs.length + 1) [] cs

/-- The rest of a string without escapes after some characters, in reverse. -/
def literalRest? (multiline : Bool) (acc : List Char) : List Char → Option (List Char × List Char)
  | [] => none
  | '\x27' :: rest =>
    if multiline then
      match rest with
      | '\x27' :: '\x27' :: rest' => some (acc.reverse, rest')
      | _ => literalRest? multiline ('\x27' :: acc) rest
    else
      some (acc.reverse, rest)
  | c :: rest =>
    if isControl c && !(multiline && c == '\n') then none
    else literalRest? multiline (c :: acc) rest

/-- A string of several lines after its opening quotes.  Up to two more quotes at its end belong
to it, and a line feed at its start does not. -/
def multiline? (quote : Char) (read : List Char → Option (List Char × List Char))
    (cs : List Char) : Option (String × List Char) :=
  let cs := if cs.head? = some '\n' then cs.tail else cs
  (read cs).map fun (s, rest) =>
    let extra := (rest.take 2).takeWhile (· == quote)
    (String.ofList (s ++ extra), rest.drop extra.length)

/-- The string on one line at the front of a text, and the rest. -/
def lineString? : List Char → Option (String × List Char)
  | '\x22' :: cs => (basic? false cs).map fun (s, rest) => (String.ofList s, rest)
  | '\x27' :: cs => (literalRest? false [] cs).map fun (s, rest) => (String.ofList s, rest)
  | _ => none

/-- The string at the front of a text, and the rest. -/
def string? : List Char → Option (String × List Char)
  | '\x22' :: '\x22' :: '\x22' :: cs => multiline? '\x22' (basic? true) cs
  | '\x27' :: '\x27' :: '\x27' :: cs => multiline? '\x27' (literalRest? true []) cs
  | cs => lineString? cs

/-! ### Keys -/

/-- Whether a character may stand in a key without quotes. -/
def isKeyChar (c : Char) : Bool := c.isAlphanum || c == '-' || c == '_'

/-- The part of a key at the front of a text, and the rest. -/
def keyPart? (cs : List Char) : Option (String × List Char) :=
  match cs.takeWhile isKeyChar with
  | [] => lineString? cs
  | part => some (String.ofList part, cs.dropWhile isKeyChar)

/-- The further parts of a key, after the parts in reverse, and the rest. -/
def keyParts? : Nat → List String → List Char → Option (List String × List Char)
  | 0, _, _ => none
  | fuel + 1, parts, cs =>
    match keyPart? cs with
    | none => none
    | some (part, cs) =>
      match skipSpace cs with
      | '.' :: cs => keyParts? fuel (part :: parts) (skipSpace cs)
      | cs => some ((part :: parts).reverse, cs)

/-- The key at the front of a text, as its parts, and the rest without space at its front. -/
def key? (cs : List Char) : Option (List String × List Char) :=
  keyParts? (cs.length + 1) [] cs

/-! ### Dates and times -/

/-- The number of exactly `count` digits at the front of a text, and the rest. -/
def fixed? (count : Nat) (cs : List Char) : Option (Nat × List Char) :=
  let digits := cs.take count
  if digits.length = count ∧ digits.all Char.isDigit then
    some (digits.foldl (fun n c => n * 10 + (c.toNat - 0x30)) 0, cs.drop count)
  else
    none

/-- A number of two digits between bounds, and the rest. -/
def twoDigits? (low high : Nat) (cs : List Char) : Option (Nat × List Char) := do
  let (n, rest) ← fixed? 2 cs
  if low ≤ n ∧ n ≤ high then some (n, rest) else none

/-- A text without a character at its front. -/
def dropChar? (c : Char) : List Char → Option (List Char)
  | [] => none
  | d :: cs => if c = d then some cs else none

/-- The numbers of the date at the front of a text, and the rest. -/
def dateNumbers? (cs : List Char) : Option (Nat × Nat × Nat × List Char) := do
  let (year, cs) ← fixed? 4 cs
  let cs ← dropChar? '-' cs
  let (month, cs) ← twoDigits? 1 12 cs
  let cs ← dropChar? '-' cs
  let (day, cs) ← twoDigits? 1 31 cs
  some (year, month, day, cs)

/-- The microseconds at the front of a text, of which further digits are cut off, and the rest. -/
def fraction (cs : List Char) : Nat × List Char :=
  match cs with
  | '.' :: rest =>
    let digits := rest.takeWhile Char.isDigit
    let kept := digits.take 6
    if digits.isEmpty then (0, cs)
    else
      (kept.foldl (fun n c => n * 10 + (c.toNat - 0x30)) 0 * Nat.pow 10 (6 - kept.length),
        rest.drop digits.length)
  | _ => (0, cs)

/-- The time of day at the front of a text, and the rest. -/
def time? (cs : List Char) : Option (TimeOfDay × List Char) := do
  let (hour, cs) ← twoDigits? 0 23 cs
  let cs ← dropChar? ':' cs
  let (minute, cs) ← twoDigits? 0 59 cs
  let cs ← dropChar? ':' cs
  let (second, cs) ← twoDigits? 0 59 cs
  let (microsecond, cs) := fraction cs
  some (⟨hour, minute, second, microsecond⟩, cs)

/-- The offset from universal time at the front of a text, in seconds, if there is one, and
the rest. -/
def zone (cs : List Char) : Option Int × List Char :=
  match cs with
  | 'Z' :: rest => (some 0, rest)
  | 'z' :: rest => (some 0, rest)
  | sign :: rest =>
    let found : Option (Int × List Char) := do
      if sign ≠ '+' ∧ sign ≠ '-' then none
      let (hours, rest) ← twoDigits? 0 23 rest
      let rest ← dropChar? ':' rest
      let (minutes, rest) ← twoDigits? 0 59 rest
      let seconds : Int := (hours * 60 + minutes) * 60
      some (if sign = '-' then -seconds else seconds, rest)
    match found with
    | some (seconds, rest) => (some seconds, rest)
    | none => (none, cs)
  | [] => (none, [])

/-- The time of day after a date, and the rest. -/
def timeAfterDate? : List Char → Option (TimeOfDay × List Char)
  | c :: cs => if c = 'T' ∨ c = 't' ∨ c = ' ' then time? cs else none
  | [] => none

/-- The date, moment or time of day at the front of a text, and the rest.  Numbers that are
no date are refused by `some none`. -/
def calendar? (cs : List Char) : Option (Option (Value × List Char)) :=
  match dateNumbers? cs with
  | some (year, month, day, rest) =>
    match Calendar.date year month day with
    | .error _ => some none
    | .ok d =>
      match timeAfterDate? rest with
      | none => some (some (.date d, rest))
      | some (t, rest) =>
        let (offset, rest) := zone rest
        some (some (.moment ⟨d, t, offset⟩, rest))
  | none => (time? cs).map fun (t, rest) => some (.time t, rest)

/-! ### Numbers -/

/-- The base that a letter after a zero stands for. -/
def base? : Char → Option Nat
  | 'x' => some 16
  | 'b' => some 2
  | 'o' => some 8
  | _ => none

/-- The number of a base after its mark at the front of a text, and the rest. -/
def based? : List Char → Option (Value × List Char)
  | '0' :: mark :: cs =>
    match base? mark with
    | none => none
    | some base =>
      match digitRun true base 0 0 cs with
      | (_, 0, _) => none
      | (n, _, rest) => some (.int n, rest)
  | _ => none

/-- The fraction at the front of a text after the digits before it: the number of places, all
digits, and the rest. -/
def places (whole : Nat) (cs : List Char) : Nat × Nat × List Char :=
  match cs with
  | '.' :: rest =>
    match digitRun true 10 whole 0 rest with
    | (_, 0, _) => (0, whole, cs)
    | (digits, count, rest) => (count, digits, rest)
  | _ => (0, whole, cs)

/-- The exponent at the front of a text, and the rest. -/
def exponent? : List Char → Option (Int × List Char)
  | c :: cs =>
    if c = 'e' ∨ c = 'E' then
      let (negative, cs) := sign cs
      match digitRun true 10 0 0 cs with
      | (_, 0, _) => none
      | (n, _, rest) => some (if negative then -(n : Int) else n, rest)
    else
      none
  | [] => none

/-- The number before a fraction with that of its digits, and the rest: a zero alone, or
digits of which the first is no zero. -/
def whole? : List Char → Option (Nat × Nat × List Char)
  | '0' :: cs => some (0, 1, cs)
  | cs =>
    match digitRun true 10 0 0 cs with
    | (_, 0, _) => none
    | found => some found

/-- The decimal number at the front of a text, and the rest. -/
def decimal (cs : List Char) : Except ReadError (Value × List Char) :=
  let (negative, cs) := sign cs
  match whole? cs with
  | none => .error .malformed
  | some (whole, length, cs) =>
    let (count, digits, cs) := places whole cs
    match exponent? cs with
    | some (e, rest) => .ok (.float (.ofDecimal negative digits (e - count)), rest)
    | none =>
      if 0 < count then .ok (.float (.ofDecimal negative digits (-(count : Int))), cs)
      else if Fault.mostDigits < length then .error (.fault (.overlongInteger length))
      else .ok (.int (if negative then -(whole : Int) else whole), cs)

/-- The infinity or the number that is none at the front of a text, and the rest. -/
def special? (cs : List Char) : Option (Value × List Char) :=
  let (negative, rest) := sign cs
  match rest with
  | 'i' :: 'n' :: 'f' :: rest => some (.float (.infinite negative), rest)
  | 'n' :: 'a' :: 'n' :: rest => some (.float .nan, rest)
  | _ => none

/-- The truth value at the front of a text, and the rest. -/
def bool? : List Char → Option (Value × List Char)
  | 't' :: 'r' :: 'u' :: 'e' :: rest => some (.bool true, rest)
  | 'f' :: 'a' :: 'l' :: 's' :: 'e' :: rest => some (.bool false, rest)
  | _ => none

/-- What is read, if anything is, of a text that is malformed otherwise. -/
def required {α : Type} (found : Option α) : Except ReadError α :=
  found.elim (.error .malformed) .ok

/-- The scalar at the front of a text, and the rest. -/
def scalar (cs : List Char) : Except ReadError (Value × List Char) :=
  match cs with
  | '\x22' :: _ | '\x27' :: _ => required ((string? cs).map fun (s, rest) => (.text s, rest))
  | _ =>
    match calendar? cs with
    | some found => required found
    | none => ((bool? cs).or ((based? cs).or (special? cs))).elim (decimal cs) .ok

end MessagePlacement.Toml
