import MessagePlacement.Yaml.Timestamp

/-!
# Tags of YAML nodes

The tag of a node tells what its content denotes.  A plain scalar without a tag gets one
by its spelling, `Tag.ofPlain`: the spelling of a truth value, number, null or timestamp,
or of one of the two signs for merging and for a default value; any other is a text.  A
line feed at the end of the spelling is disregarded.
-/

namespace MessagePlacement.Yaml

/-- What the content of a node denotes. -/
inductive Tag where
  | null
  | bool
  | int
  | float
  | binary
  | timestamp
  | orderedMap
  | pairs
  | set
  | text
  | sequence
  | mapping
  | merge
  | default
  | unknown
  deriving DecidableEq, Repr

namespace Tag

/-- The address at which the tags of the language are. -/
def base : String := "tag:yaml.org,2002:"

/-- The names of the tags of the language. -/
def names : List (String × Tag) := [
  ("null", .null), ("bool", .bool), ("int", .int), ("float", .float), ("binary", .binary),
  ("timestamp", .timestamp), ("omap", .orderedMap), ("pairs", .pairs), ("set", .set),
  ("str", .text), ("seq", .sequence), ("map", .mapping), ("merge", .merge), ("value", .default)]

/-- The tag with an address. -/
def ofAddress (address : String) : Tag :=
  ((names.find? fun e => base ++ e.1 = address).map (·.2)).getD .unknown

/-! ### Spellings -/

/-- A spelling without its sign. -/
def unsigned : List Char → List Char
  | '+' :: cs => cs
  | '-' :: cs => cs
  | cs => cs

/-- Whether a character is a digit of a base or an underscore. -/
def isDigitOf (base : Nat) (c : Char) : Bool :=
  c == '_' || (Numeral.digitValue? base c).isSome

/-- Whether a text is made of one or more digits of a base and underscores. -/
def isDigits (base : Nat) (cs : List Char) : Bool :=
  !cs.isEmpty && cs.all (isDigitOf base)

/-- The parts of a text between its colons. -/
def colonParts : List Char → List (List Char)
  | [] => [[]]
  | c :: cs =>
    match colonParts cs with
    | [] => []
    | p :: ps => if c = ':' then [] :: p :: ps else (c :: p) :: ps

/-- Whether a text is a number below sixty of one or two digits. -/
def isSixtieth : List Char → Bool
  | [a] => a.isDigit
  | [a, b] => a.isDigit && a.toNat < 0x36 && b.isDigit
  | _ => false

/-- Whether a text is a number written in base sixty, its first part satisfying a condition. -/
def isSexagesimal (first : List Char → Bool) (cs : List Char) : Bool :=
  match colonParts cs with
  | p :: q :: ps => first p && (q :: ps).all isSixtieth
  | _ => false

/-- Whether a text is a number that begins with a digit, decimal and with underscores. -/
def beginsWithDigit : List Char → Bool
  | c :: cs => c.isDigit && cs.all (isDigitOf 10)
  | [] => false

/-- Whether a text is such a number that begins with no zero. -/
def beginsWithoutZero (cs : List Char) : Bool :=
  beginsWithDigit cs && cs.head? != some '0'

/-- Whether a text spells an integer. -/
def spellsInt (cs : List Char) : Bool :=
  let cs := unsigned cs
  match cs with
  | ['0'] => true
  | '0' :: 'b' :: digits => isDigits 2 digits
  | '0' :: 'x' :: digits => isDigits 16 digits
  | '0' :: digits => isDigits 8 digits
  | _ => beginsWithoutZero cs || isSexagesimal beginsWithoutZero cs

/-- Whether a text is empty or an exponent, which has a sign. -/
def isExponent : List Char → Bool
  | [] => true
  | e :: s :: digits =>
    (e == 'e' || e == 'E') && (s == '+' || s == '-') && !digits.isEmpty && digits.all Char.isDigit
  | _ => false

/-- Whether a text with a point spells a floating point number. -/
def spellsFraction (cs : List Char) : Bool :=
  let rest := unsigned cs
  let whole := rest.takeWhile (· != '.')
  match rest.dropWhile (· != '.') with
  | [] => false
  | _ :: places =>
    let tail := places.dropWhile (isDigitOf 10)
    if whole.isEmpty then
      rest.length = cs.length && (places.head?.any Char.isDigit && isExponent tail)
    else
      (beginsWithDigit whole && isExponent tail)
        || (isSexagesimal beginsWithDigit whole && tail.isEmpty)

/-- Whether a text spells a floating point number. -/
def spellsFloat (cs : List Char) : Bool :=
  [".inf", ".Inf", ".INF"].contains (String.ofList (unsigned cs))
    || [".nan", ".NaN", ".NAN"].contains (String.ofList cs) || spellsFraction cs

/-- The spellings of truth values. -/
def boolWords : List String := [
  "yes", "Yes", "YES", "no", "No", "NO", "true", "True", "TRUE", "false", "False", "FALSE",
  "on", "On", "ON", "off", "Off", "OFF"]

/-- The spellings of null. -/
def nullWords : List String := ["~", "null", "Null", "NULL", ""]

/-- The tag of a spelling without a line feed at its end. -/
def ofSpelling? (cs : List Char) : Option Tag :=
  let s := String.ofList cs
  if boolWords.contains s then some .bool
  else if spellsFloat cs then some .float
  else if spellsInt cs then some .int
  else if s = "<<" then some .merge
  else if nullWords.contains s then some .null
  else if (Timestamp.ofChars? cs).any (·.isEvident) then some .timestamp
  else if s = "=" then some .default
  else if ["!", "&", "*"].contains s then some .unknown
  else none

/-- The tag of a plain scalar. -/
def ofPlain (text : String) : Tag :=
  let cs := text.toList
  let spelling := if cs.getLast? = some '\n' then cs.dropLast else cs
  if cs = ['\n'] then .text else (ofSpelling? spelling).getD .text

end Tag

end MessagePlacement.Yaml
