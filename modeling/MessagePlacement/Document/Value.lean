import MessagePlacement.Document.Calendar
import MessagePlacement.Number.Shortest
import MessagePlacement.Text.Quoted

/-!
# Document values

`Value` is what a JSON, YAML or TOML document denotes.  A mapping is a list of entries
in the order in which their keys first occurred; `put` keeps that place when a key
occurs again and replaces the value.  Keys are compared by `sameKey`, under which numbers
of equal value and the truth values taken as 0 and 1 are equal and not-a-number differs
from itself.  `literal` is the form of a value inside another value, `display` the form
of a value alone, in which a text stands without quotes and a date without its kind.
-/

namespace MessagePlacement

/-- What a document denotes.  `loop` stands for a collection inside itself. -/
inductive Value where
  | null
  | bool (b : Bool)
  | int (n : Int)
  | float (x : Binary64)
  | text (s : String)
  | bytes (b : List UInt8)
  | list (xs : List Value)
  | pair (a b : Value)
  | mapping (entries : List (Value × Value))
  | set (xs : List Value)
  | date (d : Date)
  | time (t : TimeOfDay)
  | moment (m : Moment)
  | loop (isMapping : Bool)
  deriving Repr

namespace Value

/-- The exact number that a numeric value stands for as a key. -/
def keyNumber? : Value → Option (Int × Nat)
  | .bool b => some (if b then 1 else 0, 1)
  | .int n => some (n, 1)
  | .float x => x.toRatio?
  | _ => none

/-- Whether two values are the same key of a mapping or member of a set. -/
def sameKey (a b : Value) : Bool :=
  match a.keyNumber?, b.keyNumber? with
  | some (n, d), some (n', d') => n * d' == n' * d
  | _, _ =>
    match a, b with
    | .null, .null => true
    | .float (.infinite s), .float (.infinite s') => s == s'
    | .text s, .text s' => s == s'
    | .bytes s, .bytes s' => s == s'
    | .date d, .date d' => d == d'
    | .time t, .time t' => t == t'
    | .moment m, .moment m' => m.isSame m'
    | _, _ => false

/-- The entries with the value of a key set: in its place, or at the end. -/
def put (key value : Value) : List (Value × Value) → List (Value × Value)
  | [] => [(key, value)]
  | (k, v) :: rest =>
    if k.sameKey key then (k, value) :: rest else (k, v) :: put key value rest

/-! ### The order of sets -/

/-- The number by which a numeric value finds its place in a set: its residue by a large prime,
with its sign, and never -1.  A denominator is a power of two, and so is its inverse. -/
def placeNumber? (v : Value) : Option Int :=
  v.keyNumber?.map fun (n, d) =>
    let inverse := Nat.pow 2 (61 - Nat.log2 d % 61)
    let residue : Int := (n.natAbs * inverse % (Nat.pow 2 61 - 1) : Nat)
    let signed := if n < 0 then -residue else residue
    if signed = -1 then -2 else signed

/-- The number of places in a set with some members: eight for fewer than five, and else the
least power of two above their double. -/
def setSize (members : Nat) : Nat :=
  if members < 5 then 8 else Nat.pow 2 (Nat.log2 (2 * members) + 1)

/-- The first free place from a place on.  Where it is not near, the number given, less its
last five bits at each step, tells where to go on; the counter bounds the steps. -/
def freePlace (size : Nat) (isFree : Nat → Bool) : Nat → Nat → Nat → Nat
  | 0, _, place => place
  | fuel + 1, number, place =>
    let near := if place + 9 < size then 10 else 1
    match (List.range near).find? fun k => isFree (place + k) with
    | some k => place + k
    | none =>
      let number := number / 32
      freePlace size isFree fuel number ((5 * place + 1 + number) % size)

/-- The members with their places in a set of some size, each in the first one that is free. -/
def arrange (size : Nat) (members : List (Int × Value)) : List (Nat × Value) :=
  members.foldl
    (fun placed (n, v) =>
      let number := (n % (Nat.pow 2 64 : Nat)).toNat
      let isFree (place : Nat) := !placed.any (·.1 == place)
      (freePlace size isFree (size + 13) number (number % size), v) :: placed)
    []

/-- The set with some members.  Numbers are in the order of their places; any other members
stay in the order in which they are given. -/
def setOf (xs : List Value) : Value :=
  match xs.mapM placeNumber? with
  | none => .set xs
  | some numbers =>
    let placed := arrange (setSize xs.length) (numbers.zip xs)
    .set ((placed.mergeSort fun a b => a.1 ≤ b.1).map (·.2))

/-- The value of a text key. -/
def get? (key : String) (entries : List (Value × Value)) : Option Value :=
  (entries.find? fun e => e.1.sameKey (.text key)).map (·.2)

/-- A byte inside a quoted sequence of bytes. -/
def quotedByte (quote : Char) (b : UInt8) : List Char :=
  let c := Char.ofNat b.toNat
  if c = quote ∨ c = '\\' then ['\\', c]
  else if c = '\n' then ['\\', 'n']
  else if c = '\r' then ['\\', 'r']
  else if c = '\t' then ['\\', 't']
  else if 0x20 ≤ b.toNat ∧ b.toNat < 0x7F then [c]
  else '\\' :: 'x' :: Text.hexDigits 2 b.toNat

/-- The literal form of a sequence of bytes. -/
def bytesLiteral (bs : List UInt8) : String :=
  let quote := Text.chooseQuote (bs.map fun b => Char.ofNat b.toNat)
  String.ofList ('b' :: quote :: bs.flatMap (quotedByte quote) ++ [quote])

mutual

/-- The form of a value inside another value. -/
def literal : Value → String
  | .null => "None"
  | .bool b => if b then "True" else "False"
  | .int n => toString n
  | .float x => x.text
  | .text s => Text.quoted s
  | .bytes bs => bytesLiteral bs
  | .list xs => "[" ++ ", ".intercalate (literals xs) ++ "]"
  | .pair a b => "(" ++ a.literal ++ ", " ++ b.literal ++ ")"
  | .mapping es => "\x7b" ++ ", ".intercalate (entryLiterals es) ++ "\x7d"
  | .set [] => "set()"
  | .set xs => "\x7b" ++ ", ".intercalate (literals xs) ++ "\x7d"
  | .date d => d.literal
  | .time t => t.literal
  | .moment m => m.literal
  | .loop isMapping => if isMapping then "\x7b...\x7d" else "[...]"

/-- The literal forms of the members of a list. -/
def literals : List Value → List String
  | [] => []
  | x :: xs => x.literal :: literals xs

/-- The literal forms of the entries of a mapping. -/
def entryLiterals : List (Value × Value) → List String
  | [] => []
  | (k, v) :: es => (k.literal ++ ": " ++ v.literal) :: entryLiterals es

end

/-- The form of a value alone. -/
def display : Value → String
  | .text s => s
  | .date d => d.display
  | .time t => t.display
  | .moment m => m.display
  | v => v.literal

/-- The name of a kind of value. -/
def kind : Value → String
  | .null => "NoneType"
  | .bool _ => "bool"
  | .int _ => "int"
  | .float _ => "float"
  | .text _ => "str"
  | .bytes _ => "bytes"
  | .list _ => "list"
  | .pair _ _ => "tuple"
  | .mapping _ => "dict"
  | .set _ => "set"
  | .date _ => "date"
  | .time _ => "time"
  | .moment _ => "datetime"
  | .loop isMapping => if isMapping then "dict" else "list"

/-- Whether a value counts as empty: nothing, false, a zero, or a collection without members. -/
def isEmpty : Value → Bool
  | .null => true
  | .bool b => !b
  | .int n => n == 0
  | .float x => x.isZero
  | .text s => s == ""
  | .bytes bs => bs.isEmpty
  | .list xs => xs.isEmpty
  | .mapping es => es.isEmpty
  | .set xs => xs.isEmpty
  | _ => false

end Value

end MessagePlacement
