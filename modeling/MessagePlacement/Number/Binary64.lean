/-!
# Binary floating point numbers

`Binary64` is a number of the 64 bit format: not a number, an infinity, or a signed
multiple of a power of two with a significand below 2^53 and an exponent of at least
-1074.  Numbers are rounded to the nearest member of the format, to the one with an even
significand at a tie, in exact arithmetic: `ofRatio` rounds a fraction, `ofDecimal` a
decimal numeral.  `toRatio?` is the exact value of a finite number, `toInt?` its value
if that is an integer.
-/

namespace MessagePlacement

/-- A number of the 64 bit floating point format. -/
inductive Binary64 where
  | nan
  | infinite (negative : Bool)
  | finite (negative : Bool) (significand : Nat) (exponent : Int)
  deriving DecidableEq, Repr

namespace Binary64

/-- A quotient rounded to the nearest integer, to the even one at a tie. -/
def roundDiv (num den : Nat) : Nat :=
  let q := num / den
  let r := num % den
  if den < 2 * r ∨ (2 * r = den ∧ q % 2 = 1) then q + 1 else q

/-- The fraction `num / den` divided by `base ^ q`. -/
def scaled (base num den : Nat) (q : Int) : Nat × Nat :=
  if 0 ≤ q then (num, den * Nat.pow base q.toNat) else (num * Nat.pow base (-q).toNat, den)

/-- The significand and exponent made of an integral significand at most 2^53. -/
def ofSignificand (negative : Bool) (m : Nat) (q : Int) : Binary64 :=
  let (m, q) := if m = Nat.pow 2 53 then (Nat.pow 2 52, q + 1) else (m, q)
  if 971 < q then .infinite negative else .finite negative m q

/-- The number nearest to the fraction `num / den`. -/
def ofRatio (negative : Bool) (num den : Nat) : Binary64 :=
  if num = 0 then
    .finite negative 0 (-1074)
  else
    let low : Int := max ((num.log2 : Int) - (den.log2 : Int) - 53) (-1074)
    let (n, d) := scaled 2 num den low
    let q := if n / d < Nat.pow 2 53 then low else low + 1
    let (n, d) := scaled 2 num den q
    ofSignificand negative (roundDiv n d) q

/-- The number nearest to `digits * 10 ^ exponent`.  Numerals beyond the range of the
format are told by their number of digits. -/
def ofDecimal (negative : Bool) (digits : Nat) (exponent : Int) : Binary64 :=
  let magnitude := exponent + (Nat.toDigits 10 digits).length
  if digits = 0 ∨ magnitude < -400 then .finite negative 0 (-1074)
  else if 400 < magnitude then .infinite negative
  else
    let (n, d) := scaled 10 digits 1 (-exponent)
    ofRatio negative n d

/-- The number nearest to an integer. -/
def ofInt (n : Int) : Binary64 :=
  ofRatio (n < 0) n.natAbs 1

/-- Zero. -/
def zero : Binary64 := .finite false 0 (-1074)

/-- The magnitude of a finite number as a fraction. -/
def magnitude (m : Nat) (q : Int) : Nat × Nat :=
  scaled 2 m 1 (-q)

/-- The signed value of a finite number as a fraction. -/
def toRatio? : Binary64 → Option (Int × Nat)
  | .finite negative m q =>
    let (n, d) := magnitude m q
    some (if negative then -(n : Int) else n, d)
  | _ => none

/-- The value of a number, if it is an integer. -/
def toInt? (x : Binary64) : Option Int :=
  match x.toRatio? with
  | some (n, d) => if n % d = 0 then some (n / d) else none
  | none => none

/-- The negated number. -/
def neg : Binary64 → Binary64
  | .nan => .nan
  | .infinite negative => .infinite !negative
  | .finite negative m q => .finite (!negative) m q

/-- The sum of two numbers. -/
def add (x y : Binary64) : Binary64 :=
  match x, y with
  | .nan, _ | _, .nan => .nan
  | .infinite a, .infinite b => if a = b then x else .nan
  | .infinite _, _ => x
  | _, .infinite _ => y
  | .finite a m q, .finite b m' q' =>
    let (n, d) := magnitude m q
    let (n', d') := magnitude m' q'
    let sum : Int := (if a then -(n : Int) else n) * d' + (if b then -(n' : Int) else n') * d
    ofRatio (if sum = 0 then a && b else sum < 0) sum.natAbs (d * d')

/-- The product of a number and a natural number. -/
def scale (x : Binary64) (k : Nat) : Binary64 :=
  match x with
  | .nan => .nan
  | .infinite a => if k = 0 then .nan else .infinite a
  | .finite a m q =>
    let (n, d) := magnitude m q
    ofRatio a (n * k) d

/-- Whether a number is zero, of either sign. -/
def isZero : Binary64 → Bool
  | .finite _ 0 _ => true
  | _ => false

end Binary64

end MessagePlacement
