import MessagePlacement.Document.Value
import MessagePlacement.Number.Numeral

/-!
# Timestamps of a YAML text

A timestamp is a date, or a date and a time of day, with an optional fraction of a second
and an optional offset from universal time.  `Timestamp.ofText?` takes the spelling apart,
in which the numbers of month and day may have one digit; `value` is the date or moment,
and fails when a number is out of range.
-/

namespace MessagePlacement.Yaml

/-- The offset from universal time of a timestamp. -/
inductive Zone where
  | universal
  | offset (negative : Bool) (hours minutes : Nat)
  deriving DecidableEq, Repr

/-- The time of day of a timestamp. -/
structure Clock where
  hour : Nat
  minute : Nat
  second : Nat
  fraction : List Char
  zone : Option Zone
  deriving DecidableEq, Repr

/-- The numbers of a timestamp, the ones for month and day with their digits. -/
structure Timestamp where
  year : Nat
  month : List Char
  day : List Char
  clock : Option Clock
  deriving DecidableEq, Repr

namespace Timestamp

/-- The number written with decimal digits. -/
def number (cs : List Char) : Nat :=
  cs.foldl (fun n c => n * 10 + (c.toNat - 0x30)) 0

/-- At least `low` and at most `high` digits at the front of a text, as many as there are. -/
def digits? (low high : Nat) (cs : List Char) : Option (List Char × List Char) :=
  let run := (cs.take high).takeWhile Char.isDigit
  if run.length < low then none else some (run, cs.drop run.length)

/-- A text without a character at its front. -/
def dropChar? (c : Char) : List Char → Option (List Char)
  | [] => none
  | d :: cs => if c = d then some cs else none

/-- A text without the blanks and tabulations at its front. -/
def dropSpace (cs : List Char) : List Char :=
  cs.dropWhile fun c => c == ' ' || c == '\t'

/-- The offset at the end of a timestamp. -/
def zone? (cs : List Char) : Option (Option Zone) :=
  match cs with
  | [] => some none
  | _ =>
    match dropSpace cs with
    | ['Z'] => some (some .universal)
    | sign :: rest =>
      if sign = '+' ∨ sign = '-' then do
        let (hours, rest) ← digits? 1 2 rest
        match rest with
        | [] => some (some (.offset (sign == '-') (number hours) 0))
        | _ => do
          let rest ← dropChar? ':' rest
          let (minutes, rest) ← digits? 2 2 rest
          if rest.isEmpty then some (some (.offset (sign == '-') (number hours) (number minutes)))
          else none
      else
        none
    | [] => none

/-- The time of day after a date. -/
def clock? (cs : List Char) : Option Clock := do
  let cs ←
    match cs with
    | [] => none
    | c :: rest =>
      if c = 'T' ∨ c = 't' then some rest
      else if c = ' ' ∨ c = '\t' then some (dropSpace rest)
      else none
  let (hour, cs) ← digits? 1 2 cs
  let cs ← dropChar? ':' cs
  let (minute, cs) ← digits? 2 2 cs
  let cs ← dropChar? ':' cs
  let (second, cs) ← digits? 2 2 cs
  let (fraction, cs) :=
    match cs with
    | '.' :: rest => (rest.takeWhile Char.isDigit, rest.dropWhile Char.isDigit)
    | _ => ([], cs)
  let zone ← zone? cs
  pure ⟨number hour, number minute, number second, fraction, zone⟩

/-- The timestamp that a text spells. -/
def ofChars? (cs : List Char) : Option Timestamp := do
  let (year, cs) ← digits? 4 4 cs
  let cs ← dropChar? '-' cs
  let (month, cs) ← digits? 1 2 cs
  let cs ← dropChar? '-' cs
  let (day, cs) ← digits? 1 2 cs
  let clock ← if cs.isEmpty then some none else (clock? cs).map some
  pure ⟨number year, month, day, clock⟩

/-- Whether a timestamp is known as one without a tag: a date alone has to be written with
two digits for month and day. -/
def isEvident (t : Timestamp) : Bool :=
  t.clock.isSome || (t.month.length = 2 && t.day.length = 2)

/-- The microseconds of a fraction of a second. -/
def microseconds (fraction : List Char) : Nat :=
  let cs := fraction.take 6
  number cs * Nat.pow 10 (6 - cs.length)

/-- The offset of a timestamp in seconds. -/
def seconds? : Option Zone → Except CalendarError (Option Int)
  | none => .ok none
  | some .universal => .ok (some 0)
  | some (.offset negative hours minutes) => (Calendar.offset negative hours minutes).map some

/-- The date or moment of a timestamp. -/
def value (t : Timestamp) : Except CalendarError Value := do
  match t.clock with
  | none => do
    let d ← Calendar.date t.year (number t.month) (number t.day)
    pure (.date d)
  | some c => do
    let offset ← seconds? c.zone
    let d ← Calendar.date t.year (number t.month) (number t.day)
    let time ← Calendar.timeOfDay c.hour c.minute c.second (microseconds c.fraction)
    pure (.moment ⟨d, time, offset⟩)

end Timestamp

end MessagePlacement.Yaml
