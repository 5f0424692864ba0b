import MessagePlacement.Document.Value
import MessagePlacement.Number.Numeral
import MessagePlacement.Text.Segments
import MessagePlacement.Text.Utf8

/-!
# Validating values

A document value is read as a text, an integer or a truth value with some leniency: bytes
count as the text they encode, a text or a floating point number may stand for an
integer, and certain words and the numbers 0 and 1 for a truth value.  Each reader
returns the value found or the `Problem` with it.  A problem at a place in a document is
an `Issue`; a document is refused with the list of all its issues.
-/

namespace MessagePlacement

/-- What is wrong with a value. -/
inductive Problem where
  | notAMapping
  | missing
  | notAnInteger
  | unreadableInteger
  | fractional
  | infinite
  | oversized
  | belowMinimum (bound : Int)
  | aboveMaximum (bound : Int)
  | notAText
  | undecodable
  | emptyText
  | invalid (reason : String)
  | malformed
  | notAList
  | notABool
  | unreadableBool
  | notPermitted
  | notAMember (members : List String)
  deriving DecidableEq, Repr

namespace Problem

/-- The words of a list with commas, and `or` before the last. -/
def alternatives : List String → String
  | [] => ""
  | [w] => w
  | [w, w'] => w ++ " or " ++ w'
  | w :: ws => w ++ ", " ++ alternatives ws

/-- The code of a problem. -/
def code : Problem → String
  | .notAMapping => "model_type"
  | .missing => "missing"
  | .notAnInteger => "int_type"
  | .unreadableInteger => "int_parsing"
  | .fractional => "int_from_float"
  | .infinite => "finite_number"
  | .oversized => "int_parsing_size"
  | .belowMinimum _ => "greater_than_equal"
  | .aboveMaximum _ => "less_than_equal"
  | .notAText => "string_type"
  | .undecodable => "string_unicode"
  | .emptyText => "string_too_short"
  | .invalid _ => "value_error"
  | .malformed => "value_error"
  | .notAList => "list_type"
  | .notABool => "bool_type"
  | .unreadableBool => "bool_parsing"
  | .notPermitted => "extra_forbidden"
  | .notAMember _ => "enum"

/-- The text of a problem; a malformed text inside a value has none of its own. -/
def message? : Problem → Option String
  | .notAMapping => some "Input should be a valid dictionary or instance of MessageDeclaration"
  | .missing => some "Field required"
  | .notAnInteger => some "Input should be a valid integer"
  | .unreadableInteger =>
    some "Input should be a valid integer, unable to parse string as an integer"
  | .fractional => some "Input should be a valid integer, got a number with a fractional part"
  | .infinite => some "Input should be a finite number"
  | .oversized => some "Unable to parse input string as an integer, exceeded maximum size"
  | .belowMinimum n => some ("Input should be greater than or equal to " ++ toString n)
  | .aboveMaximum n => some ("Input should be less than or equal to " ++ toString n)
  | .notAText => some "Input should be a valid string"
  | .undecodable =>
    some "Input should be a valid string, unable to parse raw data as a unicode string"
  | .emptyText => some "String should have at least 1 character"
  | .invalid reason => some ("Value error, " ++ reason)
  | .malformed => none
  | .notAList => some "Input should be a valid list"
  | .notABool => some "Input should be a valid boolean"
  | .unreadableBool => some "Input should be a valid boolean, unable to interpret input"
  | .notPermitted => some "Extra inputs are not permitted"
  | .notAMember members => some ("Input should be " ++ alternatives (members.map Text.quoted))

end Problem

/-- A step to a place in a document: to the value of a key or to an item of a list. -/
inductive Step where
  | key (name : String)
  | item (position : Nat)
  deriving DecidableEq, Repr

/-- The form of a step in the name of a place. -/
def Step.text : Step → String
  | .key name => name
  | .item position => toString position

/-- A problem and its place in a document. -/
structure Issue where
  place : List Step
  problem : Problem
  deriving DecidableEq, Repr

/-- The steps to the place of an issue, joined by dots. -/
def Issue.placeName (i : Issue) : String :=
  Text.join "." (i.place.map Step.text)

namespace Validation

open Text

/-- Whether a character is white space around a numeral: blank, but no information separator. -/
def isSpace (c : Char) : Bool :=
  isBlank c && !(0x1C ≤ c.toNat && c.toNat ≤ 0x1F)

/-- The form of an integer without the zeros at its front, among which there may be
underscores.  A last zero is left before a point and at the end. -/
def dropZeros? : List Char → Option (List Char)
  | '0' :: cs =>
    match cs.dropWhile fun c => c == '0' || c == '_' with
    | [] => some ((cs.getLast?).getD '0' :: [])
    | '.' :: rest =>
      some (((cs.takeWhile (· != '.')).getLast?).getD '0' :: '.' :: rest)
    | c :: rest => if ('1' ≤ c && c ≤ '9') || c == '-' then some (c :: rest) else none
  | c :: cs => if ('1' ≤ c && c ≤ '9') || c == '-' then some (c :: cs) else none
  | [] => none

/-- The form of an integer without a point and zeros at its end. -/
def dropFraction (cs : List Char) : List Char :=
  match cs.dropWhile (· != '.') with
  | '.' :: '0' :: zeros => if zeros.all (· == '0') then cs.takeWhile (· != '.') else cs
  | _ => cs

/-- Whether two underscores follow each other. -/
def hasDoubleUnderscore : List Char → Bool
  | '_' :: '_' :: _ => true
  | _ :: cs => hasDoubleUnderscore cs
  | [] => false

/-- The form of an integer without single underscores inside it. -/
def dropUnderscores (cs : List Char) : List Char :=
  if cs.head? == some '_' || cs.getLast? == some '_' || hasDoubleUnderscore cs then cs
  else cs.filter (· != '_')

/-- The greatest number of characters that an integer in a text may have. -/
def longestInteger : Nat := 4300

/-- The integer written by characters: a minus sign and digits, of which the first of several
is no zero. -/
def integerOfChars (cs : List Char) : Except Problem Int :=
  let (negative, digits) :=
    match cs with
    | '-' :: digits => (true, digits)
    | digits => (false, digits)
  match Numeral.digitRun false 10 0 0 digits with
  | (n, count, rest) =>
    if digits.head? == some '0' && 1 < digits.length then .error .unreadableInteger
    else if longestInteger < count + (cs.length - digits.length) then .error .oversized
    else if count = 0 || !rest.isEmpty then .error .unreadableInteger
    else .ok (if negative then -(n : Int) else n)

/-- The integer that a text stands for: a sign, zeros, digits with single underscores between
them, and at most a point with zeros after it.  A minus sign may also follow the zeros. -/
def integerOfText (s : String) : Except Problem Int :=
  let (signs, cs) :=
    match trimWith isSpace s.toList with
    | '-' :: cs => (['-'], cs)
    | '+' :: '-' :: _ => ([], [])
    | '+' :: cs => ([], cs)
    | cs => ([], cs)
  match dropZeros? cs with
  | none => .error .unreadableInteger
  | some cs => integerOfChars (signs ++ dropUnderscores (dropFraction cs))

/-- The integer of a floating point number, below 2^63 in magnitude. -/
def integerOfFloat (x : Binary64) : Except Problem Int :=
  match x with
  | .nan | .infinite _ => .error .infinite
  | .finite _ _ _ =>
    match x.toInt? with
    | none => .error .fractional
    | some n => if n.natAbs < Nat.pow 2 63 then .ok n else .error .oversized

/-- The text that bytes encode. -/
def textOfBytes? (bs : List UInt8) : Option String :=
  decode? (ByteArray.mk bs.toArray)

/-- A value read as an integer. -/
def integer : Value → Except Problem Int
  | .int n => .ok n
  | .bool b => .ok (if b then 1 else 0)
  | .float x => integerOfFloat x
  | .text s => integerOfText s
  | .bytes bs => (textOfBytes? bs).elim (.error .unreadableInteger) integerOfText
  | _ => .error .notAnInteger

/-- A value read as a text. -/
def text : Value → Except Problem String
  | .text s => .ok s
  | .bytes bs => (textOfBytes? bs).elim (.error .undecodable) .ok
  | _ => .error .notAText

/-- A value read as a text or nothing. -/
def optionalText : Value → Except Problem (Option String)
  | .null => .ok none
  | v => (text v).map some

/-- The truth value that a word stands for, in any case. -/
def boolOfText? (s : String) : Option Bool :=
  let word := String.ofList (s.toList.map Char.toLower)
  if ["0", "off", "f", "false", "n", "no"].contains word then some false
  else if ["1", "on", "t", "true", "y", "yes"].contains word then some true
  else none

/-- The truth value that a number stands for. -/
def boolOfInt? (n : Int) : Option Bool :=
  if n = 0 then some false else if n = 1 then some true else none

/-- A value read as a truth value. -/
def bool : Value → Except Problem Bool
  | .bool b => .ok b
  | .text s => (boolOfText? s).elim (.error .unreadableBool) .ok
  | .bytes bs => ((textOfBytes? bs).bind boolOfText?).elim (.error .unreadableBool) .ok
  | .int n =>
    if -0x8000000000000000 ≤ n ∧ n < 0x8000000000000000 then
      (boolOfInt? n).elim (.error .unreadableBool) .ok
    else
      .error .notABool
  | .float x =>
    match integerOfFloat x with
    | .ok n => (boolOfInt? n).elim (.error .unreadableBool) .ok
    | .error _ => .error .notABool
  | _ => .error .notABool

end Validation

end MessagePlacement
