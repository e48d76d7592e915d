import MailFilter.Text.Basic

/-!
# Tags

The tag of a node says what its value is. A plain scalar without a tag gets one by its form: what
looks like a number, a truth value or a date is one.

- `Tag`: what the value of a node is.
- `Tag.ofText`: the tag of its full name.
- `Tag.ofPlain`: the tag of a plain scalar by its form.
-/

namespace MailFilter

namespace Yaml

/-- What the value of a node is. -/
inductive Tag where
  | null
  | bool
  | int
  | float
  | octets
  | moment
  | orderedMap
  | pairs
  | set
  | text
  | list
  | map
  /-- The key of a mapping whose entries are taken over. -/
  | merge
  /-- The key of the main value of a mapping. -/
  | mainValue
  | unknown (name : Text)
  deriving DecidableEq

namespace Tag

/-- The beginning of the names of tags that are known everywhere. -/
def commonStem : Text := "tag:yaml.org,2002:"

/-- The names of tags behind the common beginning. -/
def names : List (String × Tag) :=
  [("null", .null), ("bool", .bool), ("int", .int), ("float", .float), ("binary", .octets),
    ("timestamp", .moment), ("omap", .orderedMap), ("pairs", .pairs), ("set", .set), ("str", .text),
    ("seq", .list), ("map", .map), ("merge", .merge), ("value", .mainValue)]

/-- The tag of its full name. -/
def ofText (t : Text) : Tag :=
  match Text.dropPrefix? commonStem t with
  | some name =>
    match names.find? fun (known, _) => name = (known : Text) with
    | some (_, tag) => tag
    | none => .unknown t
  | none => .unknown t

/-! ## Forms of plain scalars -/

/-- Whether a code point is one of the characters of a string. -/
def isOneOf (marks : String) : CodePoint → Bool
  | .char c => marks.toList.contains c
  | .surrogate _ => false

/-- Whether a text is one of some words. -/
def isWord (words : List Text) (t : Text) : Bool :=
  words.contains t

/-- Not empty, and made of code points of a class. -/
def isRun (p : CodePoint → Bool) (t : Text) : Bool :=
  !t.isEmpty && t.all p

/-- A digit or an underscore. -/
def isDigitMark (c : CodePoint) : Bool :=
  c.isDigit || c = .char '_'

/-- A digit, and digits and underscores behind it. -/
def isDigits (t : Text) : Bool :=
  t.head?.any CodePoint.isDigit && t.all isDigitMark

/-- A number below sixty with one or two digits. -/
def isSixtieth : Text → Bool
  | [a] => a.isDigit
  | [a, b] => isOneOf "012345" a && b.isDigit
  | _ => false

/-- Drops a sign at the beginning. -/
def withoutSign : Text → Text
  | c :: rest => if isOneOf "+-" c then rest else c :: rest
  | [] => []

/-- Whether a text is written as an integer: in base two, eight, ten or sixteen, or in groups of
sixtieths. -/
def isInteger (t : Text) : Bool :=
  let t := withoutSign t
  match t with
  | [] => false
  -- a zero in front gives the base, and is base eight without a letter
  | .char '0' :: rest =>
    match rest with
    | [] => true
    | .char 'b' :: digits => isRun (isOneOf "01_") digits
    | .char 'x' :: digits => isRun (fun c => c.hexValue?.isSome || c = .char '_') digits
    | digits => digits.all (isOneOf "01234567_")
  | _ =>
    match Text.splitOn (.char ':') t with
    | first :: rest => isDigits first && rest.all isSixtieth
    | [] => false

/-- Whether a text is an exponent with a sign, or empty. -/
def isExponent : Text → Bool
  | [] => true
  | e :: sign :: digits =>
    isOneOf "eE" e && isOneOf "+-" sign && isRun CodePoint.isDigit digits
  | _ => false

/-- Whether a text is written as a number with a fraction in base ten. -/
def isDecimal (t : Text) : Bool :=
  match Text.cut? "." (withoutSign t) with
  | some (whole, fraction) =>
    let rest := fraction.dropWhile isDigitMark
    isExponent rest && (isDigits whole ||
      (whole.isEmpty && t.head? = some (.char '.') && fraction.head?.any CodePoint.isDigit))
  | none => false

/-- Whether a text is written as a number with a fraction in groups of sixtieths. -/
def isSexagesimal (t : Text) : Bool :=
  match Text.cut? "." (withoutSign t) with
  | some (whole, fraction) =>
    fraction.all isDigitMark &&
      match Text.splitOn (.char ':') whole with
      | first :: second :: rest => isDigits first && (second :: rest).all isSixtieth
      | _ => false
  | none => false

/-- Whether a text is written as a number with a fraction. -/
def isFloat (t : Text) : Bool :=
  isDecimal t || isSexagesimal t || isWord [".inf", ".Inf", ".INF"] (withoutSign t) ||
    isWord [".nan", ".NaN", ".NAN"] t

/-- The words for truth values. -/
def truthWords : List Text :=
  ["yes", "Yes", "YES", "no", "No", "NO", "true", "True", "TRUE", "false", "False", "FALSE", "on",
    "On", "ON", "off", "Off", "OFF"]

/-- The words for nothing. -/
def nullWords : List Text := ["", "~", "null", "Null", "NULL"]

/-- The parts of a date, with a time or without one. -/
structure DateParts where
  year : Text
  month : Text
  day : Text
  /-- Hour, minute, second and the fraction of a second. -/
  time : Option (Text × Text × Text × Text)
  /-- Nothing, a `Z`, or a sign with hours and minutes. -/
  zone : Option (Option (Bool × Text × Text))

/-- Splits off one or two digits. -/
def twoDigits (t : Text) : Text × Text :=
  let digits := (t.take 2).takeWhile CodePoint.isDigit
  (digits, t.drop digits.length)

/-- Reads the distance from universal time at the end of a date. -/
def zone? (t : Text) : Option (Option (Option (Bool × Text × Text))) :=
  match t.dropWhile (isOneOf " \t") with
  | [] => if t.isEmpty then some none else none
  | [.char 'Z'] => some (some none)
  | sign :: rest =>
    if !isOneOf "+-" sign then none
    else
      let (hour, rest) := twoDigits rest
      if hour.isEmpty then none
      else match rest with
      | [] => some (some (some (sign = .char '-', hour, [])))
      | [.char ':', a, b] =>
        if a.isDigit && b.isDigit then some (some (some (sign = .char '-', hour, [a, b]))) else none
      | _ => none

/-- Reads the time of a date. -/
def time? (t : Text) : Option ((Text × Text × Text × Text) × Text) :=
  let (hour, rest) := twoDigits t
  match rest with
  | .char ':' :: a :: b :: .char ':' :: c :: d :: rest =>
    if hour.isEmpty || !([a, b, c, d].all CodePoint.isDigit) then none
    else match rest with
    | .char '.' :: rest =>
      some ((hour, [a, b], [c, d], rest.takeWhile CodePoint.isDigit),
        rest.dropWhile CodePoint.isDigit)
    | rest => some ((hour, [a, b], [c, d], []), rest)
  | _ => none

/-- The parts of a text that is written as a date. -/
def dateParts? (t : Text) : Option DateParts := do
  let year := t.take 4
  if year.length ≠ 4 || !year.all CodePoint.isDigit then none
  let rest ← Text.dropPrefix? "-" (t.drop 4)
  let (month, rest) := twoDigits rest
  let rest ← Text.dropPrefix? "-" rest
  let (day, rest) := twoDigits rest
  if month.isEmpty || day.isEmpty then none
  match rest with
  | [] => return ⟨year, month, day, none, none⟩
  | c :: after =>
    let after ←
      if isOneOf "Tt" c then some after
      else if isOneOf " \t" c then some (after.dropWhile (isOneOf " \t"))
      else none
    let (time, rest) ← time? after
    return ⟨year, month, day, some time, ← zone? rest⟩

/-- Whether a text is written as a date. Without a time, month and day have two digits each. -/
def isDate (t : Text) : Bool :=
  match dateParts? t with
  | some p => p.time.isSome || (p.month.length = 2 && p.day.length = 2)
  | none => false

/-- The tag of a plain scalar by its form. -/
def ofPlain (t : Text) : Tag :=
  -- a text of several forms is of the first of them
  if isWord truthWords t then .bool
  else if isFloat t then .float
  else if isInteger t then .int
  else if t = ("<<" : Text) then .merge
  else if isWord nullWords t then .null
  else if isDate t then .moment
  else if t = ("=" : Text) then .mainValue
  else .text

end Tag

end Yaml

end MailFilter
