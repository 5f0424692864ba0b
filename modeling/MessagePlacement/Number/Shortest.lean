import MessagePlacement.Number.Binary64

/-!
# Shortest decimal texts

The text of a floating point number has the fewest significant digits that read back as
the number, and among the numerals with that many digits the nearest to it.  A numeral
reads back when it lies between the midpoints to the neighbours of the number, ends
included when the significand is even; on the grid of numerals with `n` digits only the
two around the number need a test.  The text is positional from 10^-4 up to below 10^16,
with `.0` after an integer, and scientific beyond, with a sign and at least two digits in
the exponent.
-/

namespace MessagePlacement.Binary64

/-- The number of decimal places before the first significant digit of a fraction below 1. -/
def leadingZeros : Nat → Nat → Nat → Nat
  | 0, _, _ => 0
  | fuel + 1, num, den => if den ≤ num * 10 then 0 else leadingZeros fuel (num * 10) den + 1

/-- The least `k` with `num / den < 10 ^ k`, for a fraction of the range of the format. -/
def decimalPoint (num den : Nat) : Int :=
  if den ≤ num then (Nat.toDigits 10 (num / den)).length
  else -(leadingZeros 400 num den : Int)

/-- Whether `digits * 10 ^ place` lies in the interval of the reals that round to the
number of significand `m` and exponent `q`. -/
def readsBack (m : Nat) (q : Int) (digits : Nat) (place : Int) : Bool :=
  let low := if m = Nat.pow 2 52 ∧ -1074 < q then 4 * m - 1 else 4 * m - 2
  let high := 4 * m + 2
  let (n, d) := scaled 10 digits 1 (-place)
  let (n, d) := scaled 2 n d (q - 2)
  if m % 2 = 0 then low * d ≤ n && n ≤ high * d else low * d < n && n < high * d

/-- The best numeral for a number among those with at most `n` digits more than tried. -/
def shortestFrom (m : Nat) (q : Int) (num den : Nat) (point : Int) : Nat → Nat → Nat × Int
  | 0, tried =>
    let place := point - tried
    let (n, d) := scaled 10 num den place
    (roundDiv n d, place)
  | fuel + 1, tried =>
    let place := point - tried
    let (n, d) := scaled 10 num den place
    let below := n / d
    match readsBack m q below place, readsBack m q (below + 1) place with
    | true, true => (roundDiv n d, place)
    | true, false => (below, place)
    | false, true => (below + 1, place)
    | false, false => shortestFrom m q num den point fuel (tried + 1)

/-- The digits of a numeral without zeros at its end. -/
def significantDigits (n : Nat) : List Char :=
  ((Nat.toDigits 10 n).reverse.dropWhile (· = '0')).reverse

/-- The text of a numeral `0.d₁d₂… * 10 ^ point`. -/
def decimalText (digits : List Char) (point : Int) : List Char :=
  if -4 < point ∧ point ≤ 16 then
    if point ≤ 0 then
      '0' :: '.' :: (List.replicate (-point).toNat '0' ++ digits)
    else if digits.length ≤ point.toNat then
      digits ++ List.replicate (point.toNat - digits.length) '0' ++ ['.', '0']
    else
      digits.take point.toNat ++ '.' :: digits.drop point.toNat
  else
    let mantissa :=
      match digits with
      | [] => ['0']
      | [d] => [d]
      | d :: ds => d :: '.' :: ds
    let e := point - 1
    let places := Nat.toDigits 10 e.natAbs
    mantissa ++ 'e' :: (if e < 0 then '-' else '+')
      :: (List.replicate (2 - places.length) '0' ++ places)

/-- The shortest text of a number. -/
def text : Binary64 → String
  | .nan => "nan"
  | .infinite negative => if negative then "-inf" else "inf"
  | .finite negative m q =>
    let sign := if negative then ['-'] else []
    if m = 0 then
      String.ofList (sign ++ ['0', '.', '0'])
    else
      let (num, den) := magnitude m q
      let (n, place) := shortestFrom m q num den (decimalPoint num den) 16 1
      let all := Nat.toDigits 10 n
      String.ofList (sign ++ decimalText (significantDigits n) (place + all.length))

end MessagePlacement.Binary64
