import MailFilter.Decimal.Shortest
import MailFilter.Text.Quoted
import MailFilter.Value.Basic

/-!
# Values as text

Every value has a *quoted* form, which shows its kind, and a *plain* form, in which texts, days and
moments stand for themselves. Messages quote what they complain about.

- `Value.numbers`: the layout of numbers with a fraction.
- `Value.quoted`, `Value.plain`: the two forms.
- `Value.isShowable`: whether a value holds no integer beyond the greatest number of digits that
  is converted between integers and text.
-/

namespace MailFilter

/-- The most decimal digits that are converted between integers and text. -/
def digitLimit : Nat := 4300

namespace Octets

/-- An octet inside the given quotes. -/
def quotedOctet (quote : CodePoint) (b : UInt8) : Text :=
  let c := CodePoint.ofNat b.toNat
  if c = quote || c = .char '\\' then [.char '\\', c]
  else if b = 0x09 then "\\t"
  else if b = 0x0A then "\\n"
  else if b = 0x0D then "\\r"
  else if 0x20 ≤ b && b < 0x7F then [c]
  else "\\x" ++ Text.hex 2 b.toNat

/-- The quoted form of a sequence of octets. -/
def quoted (o : Octets) : Text :=
  let quote := Text.quoteMark (o.map fun b => CodePoint.ofNat b.toNat)
  "b" ++ [quote] ++ o.flatMap (quotedOctet quote) ++ [quote]

end Octets

namespace Moment

/-- A distance from universal time as whole days and the seconds after them. -/
def quotedOffset (offset : Int) : Text :=
  if offset = 0 then "datetime.timezone.utc"
  else
    let days := offset.fdiv 86400
    let seconds := offset.fmod 86400
    let parts : List Text :=
      (if days = 0 then [] else ["days=" ++ Text.ofInt days]) ++
        if seconds = 0 then [] else ["seconds=" ++ Text.ofInt seconds]
    "datetime.timezone(datetime.timedelta(" ++ Text.join ", " parts ++ "))"

/-- The quoted form of a moment. Seconds and their fraction are shown where they are not zero. -/
def quoted (m : Moment) : Text :=
  let small : List Nat :=
    if m.micro = 0 then if m.second = 0 then [] else [m.second] else [m.second, m.micro]
  let numbers := [m.day.year, m.day.month, m.day.day, m.hour, m.minute] ++ small
  let zone : List Text := m.offset.toList.map fun offset => "tzinfo=" ++ quotedOffset offset
  "datetime.datetime(" ++ Text.join ", " (numbers.map Text.ofNat ++ zone) ++ ")"

end Moment

namespace Day

/-- The quoted form of a day. -/
def quoted (d : Day) : Text :=
  "datetime.date(" ++ Text.join ", " ([d.year, d.month, d.day].map Text.ofNat) ++ ")"

end Day

namespace Value

/-- Numbers with a fraction are written positionally from `0.0001` to below `10 ^ 16`. -/
def numbers : DecimalLayout := ⟨-3, 16, "inf", "nan"⟩

mutual

/-- The quoted form of a value. -/
def quoted : Value → Text
  | .null => "None"
  | .bool b => if b then "True" else "False"
  | .int n => Text.ofInt n
  | .float x => numbers.render x
  | .text t => t.quoted
  | .octets o => o.quoted
  | .day d => d.quoted
  | .moment m => m.quoted
  | .list items => "[" ++ Text.join ", " (quotedItems items) ++ "]"
  | .pair first second => "(" ++ first.quoted ++ ", " ++ second.quoted ++ ")"
  | .map entries => "\x7b" ++ Text.join ", " (quotedEntries entries) ++ "\x7d"
  | .set [] => "set()"
  | .set (m :: members) => "\x7b" ++ Text.join ", " (m.quoted :: quotedItems members) ++ "\x7d"
  | .cycle isMap => if isMap then "\x7b...\x7d" else "[...]"

/-- The quoted forms of the items of a collection. -/
def quotedItems : List Value → List Text
  | [] => []
  | v :: rest => v.quoted :: quotedItems rest

/-- The quoted forms of the entries of a mapping. -/
def quotedEntries : List (Value × Value) → List Text
  | [] => []
  | (k, v) :: rest => (k.quoted ++ ": " ++ v.quoted) :: quotedEntries rest

end

/-- The plain form of a value. -/
def plain : Value → Text
  | .text t => t
  | .day d => d.iso
  | .moment m => m.iso " "
  | v => v.quoted

/-- Whether an integer has at most `digitLimit` digits. -/
def hasFewDigits (n : Int) : Bool :=
  n.natAbs < Nat.pow 10 digitLimit

mutual

/-- Whether every integer in a value has at most `digitLimit` digits. -/
def isShowable : Value → Bool
  | .int n => hasFewDigits n
  | .list items => areShowable items
  | .pair first second => first.isShowable && second.isShowable
  | .map entries => entriesShowable entries
  | .set members => areShowable members
  | _ => true

/-- Whether the items of a collection are showable. -/
def areShowable : List Value → Bool
  | [] => true
  | v :: rest => v.isShowable && areShowable rest

/-- Whether the entries of a mapping are showable. -/
def entriesShowable : List (Value × Value) → Bool
  | [] => true
  | (k, v) :: rest => k.isShowable && v.isShowable && entriesShowable rest

end

end Value

namespace Text

/-- The quoted form of a list of texts. -/
def quotedList (texts : List Text) : Text :=
  "[" ++ join ", " (texts.map quoted) ++ "]"

end Text

end MailFilter
