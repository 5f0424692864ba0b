/-!
# Dates and times

Dates of the Gregorian calendar from year 1 on, times of day to the microsecond, and
moments made of both with an optional offset from universal time.  `date`, `timeOfDay`
and `offset` build them from numbers and name the first number that is out of range.
Each has a display form, as in `2001-12-14 21:59:43.100000-05:00`, and a literal form
that names its kind and lists its numbers.
-/

namespace MessagePlacement

/-- A day of the calendar. -/
structure Date where
  year : Nat
  month : Nat
  day : Nat
  deriving DecidableEq, Repr

/-- A time of day. -/
structure TimeOfDay where
  hour : Nat
  minute : Nat
  second : Nat
  microsecond : Nat
  deriving DecidableEq, Repr

/-- A date and time, with the seconds by which its clock is ahead of universal time. -/
structure Moment where
  date : Date
  time : TimeOfDay
  offset : Option Int
  deriving DecidableEq, Repr

/-- Why numbers are not a date or time. -/
inductive CalendarError where
  | year (n : Nat)
  | month
  | day
  | hour
  | minute
  | second
  | offset (seconds : Int)
  deriving DecidableEq, Repr

namespace Calendar

/-- Whether a year has a leap day. -/
def isLeap (year : Nat) : Bool :=
  year % 4 = 0 && (year % 100 ≠ 0 || year % 400 = 0)

/-- The number of days in a month. -/
def daysIn (year month : Nat) : Nat :=
  if month = 2 then (if isLeap year then 29 else 28)
  else if month = 4 ∨ month = 6 ∨ month = 9 ∨ month = 11 then 30
  else 31

/-- The date with the given numbers. -/
def date (year month day : Nat) : Except CalendarError Date :=
  if year = 0 ∨ 9999 < year then .error (.year year)
  else if month = 0 ∨ 12 < month then .error .month
  else if day = 0 ∨ daysIn year month < day then .error .day
  else .ok ⟨year, month, day⟩

/-- The time of day with the given numbers. -/
def timeOfDay (hour minute second microsecond : Nat) : Except CalendarError TimeOfDay :=
  if 23 < hour then .error .hour
  else if 59 < minute then .error .minute
  else if 59 < second then .error .second
  else .ok ⟨hour, minute, second, microsecond⟩

/-- The number of days before a date since the first one of the calendar. -/
def daysBefore (d : Date) : Nat :=
  let years := d.year - 1
  let months := (List.range (d.month - 1)).foldl (fun n m => n + daysIn d.year (m + 1)) 0
  365 * years + years / 4 - years / 100 + years / 400 + months + d.day - 1

/-- The number of microseconds before a time of day. -/
def microsecondsBefore (t : TimeOfDay) : Nat :=
  ((t.hour * 60 + t.minute) * 60 + t.second) * 1000000 + t.microsecond

/-- An offset from universal time of less than a day. -/
def offset (negative : Bool) (hours minutes : Nat) : Except CalendarError Int :=
  let seconds : Int := (hours * 60 + minutes) * 60
  let seconds := if negative then -seconds else seconds
  if seconds.natAbs < 86400 then .ok seconds else .error (.offset seconds)

/-- A number with zeros in front up to a width. -/
def padded (width n : Nat) : String :=
  let digits := Nat.toDigits 10 n
  String.ofList (List.replicate (width - digits.length) '0' ++ digits)

/-- A span of time in its literal form, as days and seconds of a day. -/
def spanLiteral (seconds : Int) : String :=
  let days := seconds / 86400
  let rest := seconds % 86400
  let days := if days = 0 then [] else ["days=" ++ toString days]
  let rest := if rest = 0 then [] else ["seconds=" ++ toString rest]
  let fields := days ++ rest
  "datetime.timedelta(" ++ (if fields.isEmpty then "0" else ", ".intercalate fields) ++ ")"

end Calendar

open Calendar

/-- The microsecond of universal time at which a moment with an offset is. -/
def Moment.instant? (m : Moment) : Option Int :=
  m.offset.map fun seconds =>
    (daysBefore m.date * 86400 - seconds) * 1000000 + microsecondsBefore m.time

/-- Whether two moments are the same: at the same instant if both have an offset, and with the
same date and time if none has. -/
def Moment.isSame (a b : Moment) : Bool :=
  match a.instant?, b.instant? with
  | none, none => a == b
  | s, t => s == t

/-- The text of a refusal. -/
def CalendarError.message : CalendarError → String
  | .year n => "year " ++ toString n ++ " is out of range"
  | .month => "month must be in 1..12"
  | .day => "day is out of range for month"
  | .hour => "hour must be in 0..23"
  | .minute => "minute must be in 0..59"
  | .second => "second must be in 0..59"
  | .offset seconds =>
    "offset must be a timedelta strictly between -timedelta(hours=24) and timedelta(hours=24), not "
      ++ spanLiteral seconds ++ "."

/-- The display form of a date. -/
def Date.display (d : Date) : String :=
  padded 4 d.year ++ "-" ++ padded 2 d.month ++ "-" ++ padded 2 d.day

/-- The display form of a time of day. -/
def TimeOfDay.display (t : TimeOfDay) : String :=
  padded 2 t.hour ++ ":" ++ padded 2 t.minute ++ ":" ++ padded 2 t.second
    ++ (if t.microsecond = 0 then "" else "." ++ padded 6 t.microsecond)

/-- The display form of an offset. -/
def Calendar.displayOffset (seconds : Int) : String :=
  (if seconds < 0 then "-" else "+") ++ padded 2 (seconds.natAbs / 3600) ++ ":"
    ++ padded 2 (seconds.natAbs / 60 % 60)

/-- The display form of a moment. -/
def Moment.display (m : Moment) : String :=
  m.date.display ++ " " ++ m.time.display ++ (m.offset.map displayOffset).getD ""

/-- The numbers of a time of day, without zeros at the end beyond hour and minute. -/
def TimeOfDay.fields (t : TimeOfDay) : List String :=
  let all := [toString t.hour, toString t.minute]
  if t.microsecond ≠ 0 then all ++ [toString t.second, toString t.microsecond]
  else if t.second ≠ 0 then all ++ [toString t.second]
  else all

/-- The numbers of a date. -/
def Date.fields (d : Date) : List String :=
  [toString d.year, toString d.month, toString d.day]

/-- The literal form of a date. -/
def Date.literal (d : Date) : String :=
  "datetime.date(" ++ ", ".intercalate d.fields ++ ")"

/-- The literal form of a time of day. -/
def TimeOfDay.literal (t : TimeOfDay) : String :=
  "datetime.time(" ++ ", ".intercalate t.fields ++ ")"

/-- The literal form of an offset. -/
def Calendar.offsetLiteral (seconds : Int) : String :=
  if seconds = 0 then "datetime.timezone.utc" else "datetime.timezone(" ++ spanLiteral seconds ++ ")"

/-- The literal form of a moment. -/
def Moment.literal (m : Moment) : String :=
  let zone := (m.offset.map fun o => ["tzinfo=" ++ offsetLiteral o]).getD []
  "datetime.datetime(" ++ ", ".intercalate (m.date.fields ++ m.time.fields ++ zone) ++ ")"

end MessagePlacement
