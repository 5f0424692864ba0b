import MessagePlacement.Number.Binary64
import MessagePlacement.Text.Digit

/-!
# Numerals

Readers of numerals in a given base.  `digitRun` takes the digits at the front of a text,
with single underscores between digits where they are allowed, and returns the value,
the number of digits and what is left.  `integer?` reads a whole text as a signed
integer and `decimal?` as a floating point number, both with decimal digits of any kind
and after removing blank characters at the ends; the latter knows the words for infinity
and for not a number.
-/

namespace MessagePlacement.Numeral

open Text

/-- The value of a digit. -/
def digitValue? (base : Nat) (c : Char) : Option Nat :=
  let n := c.toNat
  let v :=
    if 0x30 ≤ n ∧ n ≤ 0x39 then n - 0x30
    else if 0x61 ≤ n ∧ n ≤ 0x7A then n - 0x57
    else if 0x41 ≤ n ∧ n ≤ 0x5A then n - 0x37
    else base
  if v < base then some v else none

/-- The value and number of the digits at the front of a text, and the rest. -/
def digitRun (underscores : Bool) (base : Nat) (value count : Nat) :
    List Char → Nat × Nat × List Char
  | [] => (value, count, [])
  | c :: cs =>
    match digitValue? base c with
    | some d => digitRun underscores base (value * base + d) (count + 1) cs
    | none =>
      match c, cs with
      | '_', c' :: cs' =>
        if underscores && 0 < count then
          match digitValue? base c' with
          | some d => digitRun underscores base (value * base + d) (count + 1) cs'
          | none => (value, count, c :: cs)
        else
          (value, count, c :: cs)
      | _, _ => (value, count, c :: cs)

/-- A sign at the front of a text. -/
def sign : List Char → Bool × List Char
  | '-' :: cs => (true, cs)
  | '+' :: cs => (false, cs)
  | cs => (false, cs)

/-- The letter that marks a base. -/
def baseMark (base : Nat) : Option Char :=
  if base = 2 then some 'b' else if base = 8 then some 'o' else if base = 16 then some 'x' else none

/-- The digits after a mark of the base such as `0x`, which may be left out. -/
def dropBaseMark (base : Nat) (cs : List Char) : List Char :=
  match cs with
  | '0' :: m :: rest =>
    if baseMark base = some m.toLower then
      match rest with
      | '_' :: rest' => rest'
      | _ => rest
    else
      cs
  | _ => cs

/-- The number of digits of a signed integer at the front of a text. -/
def digitCount (base : Nat) (s : String) : Nat :=
  let (_, cs) := sign (trimWith isAsciiBlank (plainNumeral s))
  (digitRun true base 0 0 (dropBaseMark base cs)).2.1

/-- A whole text read as a signed integer. -/
def integer? (base : Nat) (s : String) : Option Int :=
  let (negative, cs) := sign (trimWith isAsciiBlank (plainNumeral s))
  match digitRun true base 0 0 (dropBaseMark base cs) with
  | (n, _ + 1, []) => some (if negative then -(n : Int) else n)
  | _ => none

/-- The exponent at the front of a text; none is an exponent of 0. -/
def exponent? : List Char → Option Int
  | [] => some 0
  | c :: cs =>
    if c = 'e' ∨ c = 'E' then
      let (negative, cs) := sign cs
      match digitRun true 10 0 0 cs with
      | (n, _ + 1, []) => some (if negative then -(n : Int) else n)
      | _ => none
    else
      none

/-- The words for infinity and for not a number, in any case. -/
def special? (negative : Bool) (cs : List Char) : Option Binary64 :=
  let word := String.ofList (cs.map Char.toLower)
  if word = "inf" ∨ word = "infinity" then some (.infinite negative)
  else if word = "nan" then some .nan
  else none

/-- A whole text read as a floating point number. -/
def decimal? (s : String) : Option Binary64 :=
  let (negative, cs) := sign (trimWith isAsciiBlank (plainNumeral s))
  match special? negative cs with
  | some x => some x
  | none =>
    let (whole, before, rest) := digitRun true 10 0 0 cs
    match rest with
    | '.' :: rest =>
      match rest with
      | '_' :: _ => none
      | _ =>
        let (all, count, rest) := digitRun true 10 whole 0 rest
        if before + count = 0 then none
        else (exponent? rest).map fun e => .ofDecimal negative all (e - count)
    | _ =>
      if before = 0 then none
      else (exponent? rest).map fun e => .ofDecimal negative whole e

end MessagePlacement.Numeral
