import MessagePlacement.Text.Base64
import MessagePlacement.Text.Case
import MessagePlacement.Yaml.Cursor
import MessagePlacement.Yaml.Tag

/-!
# Values of YAML scalars

The value of a text under a tag that scalars have.  A tag may have been given to any
text, so each reader says how a text fails that is no spelling of its type.  Underscores
in numbers are passed over, and numbers may be written in base sixty with colons.
-/

namespace MessagePlacement.Yaml.Atom

/-- The truth value of a word, in any case. -/
def bool (text : String) : Except ReadError Value :=
  let word := Text.lower text
  if ["yes", "true", "on"].contains word then .ok (.bool true)
  else if ["no", "false", "off"].contains word then .ok (.bool false)
  else .error (.fault .missingKey)

/-- A text without underscores. -/
def dropUnderscores (text : String) : List Char :=
  text.toList.filter (· != '_')

/-- An integer in a base.  In base ten it may not have too many digits. -/
def integer (base : Nat) (text : String) : Except ReadError Int :=
  let digits := Numeral.digitCount base text
  if base = 10 ∧ Fault.mostDigits < digits then .error (.fault (.overlongInteger digits))
  else (Numeral.integer? base text).elim (.error (.fault (.unreadableInteger base text))) .ok

/-- An integer without its sign. -/
def magnitude (cs : List Char) : Except ReadError Int :=
  let text := String.ofList cs
  match cs with
  | [] => .error (.fault .outOfRange)
  | '0' :: 'b' :: digits => integer 2 (String.ofList digits)
  | '0' :: 'x' :: digits => integer 16 (String.ofList digits)
  | '0' :: _ => integer 8 text
  | _ =>
    if cs.contains ':' then do
      let parts ← (Tag.colonParts cs).mapM fun p => integer 10 (String.ofList p)
      pure (parts.foldl (fun n p => n * 60 + p) 0)
    else
      integer 10 text

/-- The integer of a text. -/
def int (text : String) : Except ReadError Value :=
  match dropUnderscores text with
  | [] => .error (.fault .outOfRange)
  | '-' :: cs => (magnitude cs).map fun n => .int (-n)
  | '+' :: cs => (magnitude cs).map .int
  | cs => (magnitude cs).map .int

/-- The characters of a floating point number: in lower case and without underscores. -/
def floatChars (text : String) : List Char :=
  (Text.lower (String.ofList (dropUnderscores text))).toList

/-- Whether a text is the spelling of what is not a number, with or without a sign. -/
def spellsNaN (text : String) : Bool :=
  Tag.unsigned (floatChars text) = ".nan".toList

/-- A floating point number in base ten. -/
def decimal (cs : List Char) : Except ReadError Binary64 :=
  let text := String.ofList cs
  match Numeral.decimal? text with
  | some x => .ok x
  | none =>
    .error (.fault (.invalidValue ("could not convert string to float: " ++ Text.quoted text)))

/-- The sum of parts from the last on, each counting sixty times the one after it. -/
def sexagesimal : Binary64 → Nat → List Binary64 → Except ReadError Binary64
  | sum, _, [] => .ok sum
  | sum, unit, x :: xs =>
    match (Binary64.ofInt unit).toInt? with
    | none => .error (.fault .overflow)
    | some u => sexagesimal (sum.add (x.scale u.natAbs)) (unit * 60) xs

/-- A floating point number without its sign. -/
def fraction (cs : List Char) : Except ReadError Binary64 :=
  if cs = ".inf".toList then .ok (.infinite false)
  else if cs = ".nan".toList then .ok .nan
  else if cs.contains ':' then do
    let parts ← (Tag.colonParts cs).mapM decimal
    sexagesimal .zero 1 parts.reverse
  else
    decimal cs

/-- The floating point number of a text. -/
def float (text : String) : Except ReadError Value :=
  match floatChars text with
  | [] => .error (.fault .outOfRange)
  | '-' :: cs => (fraction cs).map fun x => .float x.neg
  | '+' :: cs => (fraction cs).map .float
  | cs => (fraction cs).map .float

/-- The bytes of a text in base 64. -/
def binary (text : String) : Except ReadError Value :=
  let cs := text.toList
  if cs.all (·.toNat < 0x80) then
    match Text.Base64.decode? cs with
    | some bytes => .ok (.bytes bytes)
    | none => .error .malformed
  else
    .error .malformed

/-- The date or moment of a text, at whose end a line feed is disregarded. -/
def timestamp (text : String) : Except ReadError Value :=
  let cs := text.toList
  let cs := if cs.getLast? = some '\n' then cs.dropLast else cs
  match Timestamp.ofChars? cs with
  | none => .error (.fault .missingAttribute)
  | some t =>
    match t.value with
    | .ok v => .ok v
    | .error e => .error (.fault (.invalidValue e.message))

end MessagePlacement.Yaml.Atom
