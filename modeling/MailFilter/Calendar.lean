import MailFilter.Text.Basic

/-!
# Days and moments

Days of the proleptic Gregorian calendar from year 1 to year 9999, and moments of a day with an
optional distance from universal time.

- `Day`, `Moment`: a calendar day, a time on a day.
- `Day.isValid`, `Day.number`: whether a day exists, and how many days precede it.
- `Day.weekday`: the day of the week, Monday first.
- `Moment.shift`: a moment some seconds later or earlier.
-/

namespace MailFilter

/-- A calendar day. -/
structure Day where
  year : Nat
  month : Nat
  day : Nat
  deriving DecidableEq, Inhabited

namespace Day

/-- A year with a 29th of February. -/
def isLeapYear (year : Nat) : Bool :=
  year % 4 == 0 && (year % 100 != 0 || year % 400 == 0)

/-- The number of days of a month. -/
def daysInMonth (year month : Nat) : Nat :=
  if month = 2 then if isLeapYear year then 29 else 28
  else if month = 4 || month = 6 || month = 9 || month = 11 then 30
  else 31

/-- Whether the day exists. -/
def isValid (d : Day) : Bool :=
  1 ≤ d.year && d.year ≤ 9999 && 1 ≤ d.month && d.month ≤ 12 &&
    1 ≤ d.day && d.day ≤ daysInMonth d.year d.month

/-- The number of days before the first of January of a year. -/
def daysBeforeYear (year : Nat) : Nat :=
  let y := year - 1
  y * 365 + y / 4 - y / 100 + y / 400

/-- The number of days of a year before a month. -/
def daysBeforeMonth (year month : Nat) : Nat :=
  (List.range (month - 1)).foldl (fun days m => days + daysInMonth year (m + 1)) 0

/-- The place of a day in the calendar; the first of January of year 1 is number 1. -/
def number (d : Day) : Nat :=
  daysBeforeYear d.year + daysBeforeMonth d.year d.month + d.day

/-- The day of the week, `0` for Monday. -/
def weekday (d : Day) : Nat :=
  (d.number + 6) % 7

/-- The month of a day of a year, counted from zero, and the days before it. -/
def monthOfDay (year dayOfYear : Nat) : Nat × Nat :=
  let passed := (List.range 11).takeWhile fun m => daysBeforeMonth year (m + 2) ≤ dayOfYear
  (passed.length + 1, dayOfYear - daysBeforeMonth year (passed.length + 1))

/-- The day with a place in the calendar. -/
def ofNumber (n : Nat) : Day :=
  let estimate := n / 366 + 1
  let passed := (List.range 40).takeWhile fun k => daysBeforeYear (estimate + k + 1) < n
  let year := estimate + passed.length
  let (month, rest) := monthOfDay year (n - daysBeforeYear year - 1)
  ⟨year, month, rest + 1⟩

/-- The day as year, month and day of the month. -/
def iso (d : Day) : Text :=
  Text.padded 4 d.year ++ "-" ++ Text.padded 2 d.month ++ "-" ++ Text.padded 2 d.day

end Day

/-- A time on a day. The distance from universal time, in seconds, may be unknown. -/
structure Moment where
  day : Day
  hour : Nat
  minute : Nat
  second : Nat
  micro : Nat := 0
  offset : Option Int := none
  deriving DecidableEq, Inhabited

namespace Moment

/-- Whether the day and the time exist. -/
def isValid (m : Moment) : Bool :=
  m.day.isValid && m.hour < 24 && m.minute < 60 && m.second < 60 && m.micro < 1000000

/-- The seconds since the beginning of the calendar, by the moment's own clock. -/
def seconds (m : Moment) : Int :=
  m.day.number * 86400 + m.hour * 3600 + m.minute * 60 + m.second

/-- The moment some seconds later by the same clock, if the calendar reaches it. -/
def shift (m : Moment) (delta : Int) : Option Moment :=
  let total := m.seconds + delta
  let number := total.fdiv 86400
  let rest := (total.fmod 86400).toNat
  let day := Day.ofNumber number.toNat
  if 1 ≤ number && day.year ≤ 9999 then
    some { m with day, hour := rest / 3600, minute := rest / 60 % 60, second := rest % 60 }
  else none

/-- A distance from universal time as sign, hours and minutes, with seconds where there are any. -/
def offsetText (offset : Int) : Text :=
  let magnitude := offset.natAbs
  let seconds := magnitude % 60
  let sign : Text := if offset < 0 then "-" else "+"
  let rest : Text := if seconds = 0 then [] else ":" ++ Text.padded 2 seconds
  sign ++ Text.padded 2 (magnitude / 3600) ++ ":" ++ Text.padded 2 (magnitude / 60 % 60) ++ rest

/-- The moment as day and time with the given separator, the fraction of a second where there is
one, and the distance from universal time where it is known. -/
def iso (separator : Text) (m : Moment) : Text :=
  let fraction : Text := if m.micro = 0 then [] else "." ++ Text.padded 6 m.micro
  m.day.iso ++ separator ++ Text.padded 2 m.hour ++ ":" ++ Text.padded 2 m.minute ++ ":" ++
    Text.padded 2 m.second ++ fraction ++ (m.offset.map offsetText).getD []

end Moment

end MailFilter
