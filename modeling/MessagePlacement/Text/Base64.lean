/-!
# Base 64

`Base64.decode?` reads bytes written with four characters for three bytes.  Characters
outside the alphabet are passed over, and reading ends at the padding that completes a
group.  It fails when the last group is left incomplete.
-/

namespace MessagePlacement.Text.Base64

/-- The six bits that a character stands for. -/
def sextet? (c : Char) : Option Nat :=
  let n := c.toNat
  if 0x41 ≤ n ∧ n ≤ 0x5A then some (n - 0x41)
  else if 0x61 ≤ n ∧ n ≤ 0x7A then some (n - 0x47)
  else if 0x30 ≤ n ∧ n ≤ 0x39 then some (n + 4)
  else if c = '+' then some 62
  else if c = '/' then some 63
  else none

/-- The bytes of a text after `position` characters of a group, of which the bits in `left`
are not written yet, and after `pads` signs of padding. -/
def decodeFrom (position left pads : Nat) : List Char → Option (List UInt8)
  | [] => if position = 0 then some [] else none
  | '=' :: cs =>
    if 2 ≤ position then
      if 4 ≤ position + pads + 1 then some [] else decodeFrom position left (pads + 1) cs
    else
      decodeFrom position left pads cs
  | c :: cs =>
    match sextet? c with
    | none => decodeFrom position left pads cs
    | some n =>
      match position with
      | 0 => decodeFrom 1 n 0 cs
      | 1 => (decodeFrom 2 (n % 16) 0 cs).map ((left * 4 + n / 16).toUInt8 :: ·)
      | 2 => (decodeFrom 3 (n % 4) 0 cs).map ((left * 16 + n / 4).toUInt8 :: ·)
      | _ => (decodeFrom 0 0 0 cs).map ((left * 64 + n).toUInt8 :: ·)

/-- The bytes that a text encodes. -/
def decode? (cs : List Char) : Option (List UInt8) :=
  decodeFrom 0 0 0 cs

end MessagePlacement.Text.Base64
