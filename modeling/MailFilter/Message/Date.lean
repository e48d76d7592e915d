import MailFilter.Calendar
import MailFilter.Failure
import MailFilter.Text.Case
import MailFilter.Text.Integer

/-!
# Dates of messages

A date is written as day, month, year, time and zone, with the name of the weekday before them if
one likes. Reading puts up with many other orders and spellings; what cannot be read as a date stays
as it is.

- `MailDate.parts?`: the numbers of a date.
- `MailDate.moment?`: the moment of a date.
- `MailDate.shown`: a moment in the one way in which dates are shown.
- `MailDate.read`: the text of a field that holds a date.
-/

namespace MailFilter

namespace MailDate

/-- The names of months, short and long. -/
def monthNames : List Text :=
  ["jan", "feb", "mar", "apr", "may", "jun", "jul", "aug", "sep", "oct", "nov", "dec",
    "january", "february", "march", "april", "may", "june", "july", "august", "september",
    "october", "november", "december"]

/-- The names of months as they are shown. -/
def shownMonths : List Text :=
  ["Jan", "Feb", "Mar", "Apr", "May", "Jun", "Jul", "Aug", "Sep", "Oct", "Nov", "Dec"]

/-- The names of weekdays. -/
def dayNames : List Text := ["mon", "tue", "wed", "thu", "fri", "sat", "sun"]

/-- The names of weekdays as they are shown. -/
def shownDays : List Text := ["Mon", "Tue", "Wed", "Thu", "Fri", "Sat", "Sun"]

/-- Zones that have a name, as hours and minutes in one number. -/
def zones : List (Text × Int) :=
  [("UT", 0), ("UTC", 0), ("GMT", 0), ("Z", 0), ("AST", -400), ("ADT", -300), ("EST", -500),
    ("EDT", -400), ("CST", -600), ("CDT", -500), ("MST", -700), ("MDT", -600), ("PST", -800),
    ("PDT", -700)]

/-- The numbers of a date. The distance from universal time is in seconds. -/
structure Parts where
  year : Int
  month : Int
  day : Int
  hour : Int
  minute : Int
  second : Int
  offset : Option Int

/-- The number of a month by its name. -/
def month? (name : Text) : Option Nat :=
  (monthNames.findIdx? (· = name.lower)).map fun i => i % 12 + 1

/-- Drops a comma at the end. -/
def withoutComma (t : Text) : Text :=
  if t.getLast? = some (.char ',') then t.dropLast else t

/-- Drops the weekday at the beginning, which may be joined to what follows it by a comma. -/
def withoutWeekday : List Text → List Text
  | [] => []
  | first :: rest =>
    if first.getLast? = some (.char ',') || dayNames.contains first.lower then rest
    else match Text.cutLast? (.char ',') first with
    | some (_, after) => after :: rest
    | none => first :: rest

/-- Takes apart a date that is joined by dashes. -/
def withoutDashes : List Text → List Text
  | [date, time, zone] =>
    match Text.splitOn (.char '-') date with
    | [day, month, year] => [day, month, year, time, zone]
    | _ => [date, time, zone]
  | words => words

/-- Takes apart a time and the zone that is joined to it. -/
def withZone : List Text → List Text
  | [day, month, year, time] =>
    let sign : CodePoint := if time.contains (.char '+') then .char '+' else .char '-'
    let before := time.takeWhile (· ≠ sign)
    if before.isEmpty || before.length = time.length then [day, month, year, time, []]
    else [day, month, year, before, time.drop before.length]
  | words => words

/-- The hour, minute and second of a time. They may be separated by points. -/
def timeWords? (t : Text) : Option (Text × Text × Text) :=
  match Text.splitOn (.char ':') t with
  | [hour, minute] => some (hour, minute, "0")
  | [hour, minute, second] => some (hour, minute, second)
  | [t] =>
    match Text.splitOn (.char '.') t with
    | [hour, minute] => some (hour, minute, "0")
    | [hour, minute, second] => some (hour, minute, second)
    | _ => none
  | _ => none

/-- The distance from universal time in seconds. A zone of zero hours with a minus sign says nothing
about the distance, nor does a zone that makes no sense. -/
def offset? (zone : Text) : Option Int :=
  let zone := zone.upper
  match zones.find? fun (name, _) => name = zone with
  | some (_, n) => some (seconds n)
  | none =>
    match Text.integer? digitLimit zone with
    | some n => if n = 0 && zone.head? = some (.char '-') then none else some (seconds n)
    | none => none
where
  /-- The seconds of hours and minutes in one number. -/
  seconds (n : Int) : Int :=
    let magnitude := n.natAbs / 100 * 3600 + n.natAbs % 100 * 60
    if n < 0 then -magnitude else magnitude

/-- The year of a number with two digits. -/
def fullYear (year : Int) : Int :=
  if 100 ≤ year then year else if 68 < year then year + 1900 else year + 2000

/-- The numbers of a date from its words: day, month, year, time and zone. -/
def ofWords? (day month year time zone : Text) : Option Parts := do
  if day.isEmpty || month.isEmpty || year.isEmpty then none
  let (day, month) ←
    match month? month with
    | some n => some (day, n)
    | none => (month? day).map fun n => (month, n)
  let day := withoutComma day
  let (year, time) := if hasColonInside year then (time, year) else (year, time)
  let year := withoutComma year
  let first ← year.head?
  let (year, zone) := if first.isDigit then (year, zone) else (zone, year)
  let (hour, minute, second) ← timeWords? (withoutComma time)
  let number (t : Text) : Option Int := Text.integer? digitLimit t
  return ⟨fullYear (← number year), month, ← number day, ← number hour, ← number minute,
    ← number second, offset? zone⟩
where
  /-- Whether a colon occurs behind the first code point. -/
  hasColonInside (t : Text) : Bool :=
    t.head?.any (· ≠ .char ':') && t.contains (.char ':')

/-- The numbers of a date. -/
def parts? (t : Text) : Option Parts :=
  match withZone (withoutDashes (withoutWeekday (Text.words t))) with
  | day :: month :: year :: time :: zone :: _ => ofWords? day month year time zone
  | _ => none

/-- The greatest number of a machine word. -/
def wordLimit : Nat := Nat.pow 2 31

/-- Whether a number fits into a machine word. -/
def fitsWord (n : Int) : Bool :=
  -(wordLimit : Int) ≤ n && n < wordLimit

/-- The moment of a date, if there is such a moment. Numbers of no reasonable size are an overflow. -/
def moment? (p : Parts) : Except Fault (Option Moment) :=
  let fields := [p.year, p.month, p.day, p.hour, p.minute, p.second]
  let offsetFits := p.offset.all fun n => (n.fdiv 86400).natAbs ≤ 999999999
  let offsetValid := p.offset.all fun n => n.natAbs < 86400
  if !offsetFits then .error .overflow
  else if !offsetValid then .ok none
  else if !fields.all fitsWord then .error .overflow
  else if fields.any (· < 0) then .ok none
  else
    let day : Day := ⟨p.year.toNat, p.month.toNat, p.day.toNat⟩
    let m : Moment := ⟨day, p.hour.toNat, p.minute.toNat, p.second.toNat, 0, p.offset⟩
    .ok (if m.isValid then some m else none)

/-- The distance from universal time as it is shown. -/
def shownOffset : Option Int → Text
  | none => "-0000"
  | some offset =>
    let sign : Text := if offset < 0 then "-" else "+"
    sign ++ Text.padded 2 (offset.natAbs / 3600) ++ Text.padded 2 (offset.natAbs / 60 % 60)

/-- A moment as dates are shown. -/
def shown (m : Moment) : Text :=
  let weekday := shownDays.getD m.day.weekday []
  let month := shownMonths.getD (m.day.month - 1) []
  let time := Text.join ":" ([m.hour, m.minute, m.second].map (Text.padded 2))
  weekday ++ ", " ++ Text.padded 2 m.day.day ++ " " ++ month ++ " " ++ Text.padded 4 m.day.year ++
    " " ++ time ++ " " ++ shownOffset m.offset

/-- The text of a field that holds a date. -/
def read (t : Text) : Except Fault Text := do
  match parts? t with
  | none => return t
  | some p => return ((← moment? p).map shown).getD t

end MailDate

end MailFilter
