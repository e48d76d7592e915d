import MailFilter.Decimal.Binary
import MailFilter.Text.Basic

/-!
# Decimals with a given number of places

Ratios of naturals rounded to so many places behind the point, or to so many digits. A half goes to
the even neighbour.

- `Places.fixed`: positional, with so many places.
- `Places.scientific`: one digit, so many places and an exponent.
- `Places.general`: so many digits, positional where the exponent is neither small nor large.
-/

namespace MailFilter

namespace Places

/-- A point and places, or nothing if there are none. An `explicit` point is always written. -/
def fraction (explicit : Bool) (digits : Text) : Text :=
  if digits.isEmpty && !explicit then [] else .char '.' :: digits

/-- A ratio with so many places behind the point. -/
def fixed (explicit : Bool) (places num den : Nat) : Text :=
  let digits := Text.padded (places + 1) (Binary.roundRatio (num * Nat.pow 10 places) den)
  let whole := digits.length - places
  digits.take whole ++ fraction explicit (digits.drop whole)

/-- The ratio times a power of ten. -/
def scaled (num den : Nat) (power : Int) : Nat × Nat :=
  if 0 ≤ power then (num * Nat.pow 10 power.natAbs, den) else (num, den * Nat.pow 10 power.natAbs)

/-- The exponent of the first digit of a ratio. -/
def leading (num den : Nat) : Int :=
  let length (n : Nat) : Int := (Nat.toDigits 10 n).length
  let guess := length num - length den
  let (n, d) := scaled num den (-guess)
  if d ≤ n then guess else guess - 1

/-- The first `places + 1` digits of a ratio, and the exponent of the first. -/
def rounded (places num den : Nat) : Nat × Int :=
  if num = 0 then (0, 0)
  else
    let exponent := leading num den
    let (n, d) := scaled num den (places - exponent)
    let digits := Binary.roundRatio n d
    if digits = Nat.pow 10 (places + 1) then (Nat.pow 10 places, exponent + 1) else (digits, exponent)

/-- An exponent with its sign and at least two digits. -/
def exponentText (exponent : Int) : Text :=
  (if exponent < 0 then "e-" else "e+" : Text) ++ Text.padded 2 exponent.natAbs

/-- A ratio as one digit, so many places and an exponent. -/
def scientific (explicit : Bool) (places num den : Nat) : Text :=
  let (digits, exponent) := rounded places num den
  let digits := Text.padded (places + 1) digits
  digits.take 1 ++ fraction explicit (digits.drop 1) ++ exponentText exponent

/-- A ratio with so many digits. Zeros at the end are left out unless `explicit`. -/
def general (explicit : Bool) (count num den : Nat) : Text :=
  let count := max 1 count
  let (digits, exponent) := rounded (count - 1) num den
  let digits := Text.padded count digits
  let shown (places : Text) : Text :=
    if explicit then places else Text.trimRight (· = .char '0') places
  if -4 ≤ exponent && exponent < count then
    let zeros : Text := List.replicate (-exponent).toNat (.char '0')
    let all := zeros ++ digits
    let whole := exponent.toNat + 1
    all.take whole ++ fraction explicit (shown (all.drop whole))
  else digits.take 1 ++ fraction explicit (shown (digits.drop 1)) ++ exponentText exponent

end Places

end MailFilter
