import MailFilter.Decimal.Binary
import MailFilter.Text.Case
import MailFilter.Text.Integer

/-!
# Numbers in texts

- `Decimal.float?`: the number in double precision that a text denotes.
-/

namespace MailFilter

namespace Decimal

/-- Splits a sign off. Answers whether it is a minus sign. -/
def splitSign : Text → Bool × Text
  | .char '-' :: rest => (true, rest)
  | .char '+' :: rest => (false, rest)
  | t => (false, t)

/-- Digits that may be missing. -/
def digits? (t : Text) : Option Text :=
  if t.isEmpty then some [] else Text.groupedDigits? t

/-- The number that digits, a point and an exponent denote. -/
def ofParts? (negative : Bool) (mantissa : Text) (exponent : Int) : Option Float := do
  let (whole, fraction) := (Text.cut? "." mantissa).getD (mantissa, [])
  let whole ← digits? whole
  let fraction ← digits? fraction
  if whole.isEmpty && fraction.isEmpty then none
  else
    let value := Text.digitsValue (whole ++ fraction)
    some (Binary.ofDecimal negative value (exponent - fraction.length))

/-- The number in double precision that a text denotes. Blanks at both ends are passed over, and single
underscores between digits. -/
def float? (t : Text) : Option Float :=
  let (negative, t) := splitSign (Text.strip t.asciiDigits)
  let t := t.lower
  let signed (x : Float) : Float := if negative then -x else x
  if t = ("inf" : Text) || t = ("infinity" : Text) then some (signed (1.0 / 0.0))
  else if t = ("nan" : Text) then some (0.0 / 0.0)
  else match Text.cut? "e" t with
  | none => ofParts? negative t 0
  | some (mantissa, exponent) =>
    let (below, digits) := splitSign exponent
    (Text.groupedDigits? digits).bind fun digits =>
      let n : Int := Text.digitsValue digits
      ofParts? negative mantissa (if below then -n else n)

end Decimal

end MailFilter
