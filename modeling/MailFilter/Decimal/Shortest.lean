import MailFilter.Decimal.Binary
import MailFilter.Text.Basic

/-!
# The shortest decimal that reads back

Every finite number in double precision is the nearest one to all decimals of an interval around
it. Its shortest decimal has the fewest digits among them, and is the nearest of those to the
number. For each digit count in turn, the two neighbours of the number on the decimal grid are
tested in exact arithmetic.

- `Shortest.decimal`: digits and exponent of the shortest decimal.
- `DecimalLayout`: how digits and exponent are laid out.
- `DecimalLayout.render`: the text of a number.
-/

namespace MailFilter

namespace Shortest

/-- A number `value / den` with the ends of the interval of ratios that are read as it. -/
structure Interval where
  value : Nat
  low : Nat
  high : Nat
  den : Nat
  closed : Bool

/-- The interval of `m · 2 ^ q`: half a unit on each side, a quarter below a power of two, where the
grid is finer. The ends belong to it if `m` is even. -/
def interval (m : Nat) (q : Int) : Interval :=
  let unit := if 0 ≤ q then 4 * Nat.pow 2 q.natAbs else 4
  let den := if 0 ≤ q then 4 else 4 * Nat.pow 2 q.natAbs
  let below := if m = Nat.pow 2 52 && -1074 < q then unit / 4 else unit / 2
  ⟨m * unit, m * unit - below, m * unit + unit / 2, den, m % 2 == 0⟩

/-- The place of the first digit: `10 ^ (place - 1) ≤ num / den < 10 ^ place`. -/
def firstPlace (num den : Nat) : Int :=
  if den ≤ num then (Nat.toDigits 10 (num / den)).length
  else
    let zeros := (List.range 400).takeWhile fun j => num * Nat.pow 10 (j + 1) < den
    Int.neg zeros.length

/-- The digits of the decimal with `count` digits that is nearest to the number and inside its
interval, and their exponent. -/
def withDigits? (i : Interval) (place : Int) (count : Nat) : Option (Nat × Int) :=
  let exponent := place - count
  let up := if 0 ≤ exponent then Nat.pow 10 exponent.natAbs else 1
  let down := if 0 ≤ exponent then 1 else Nat.pow 10 exponent.natAbs
  -- `d · 10 ^ exponent` compared with `x / den` is `d · grid` compared with `x · down`
  let grid := up * i.den
  let inside (d : Nat) : Bool :=
    if i.closed then i.low * down ≤ d * grid && d * grid ≤ i.high * down
    else i.low * down < d * grid && d * grid < i.high * down
  let floor := i.value * down / grid
  let rest := i.value * down % grid
  match inside floor, inside (floor + 1) with
  | true, true =>
    let roundUp := grid < 2 * rest || (grid == 2 * rest && floor % 2 == 1)
    some (if roundUp then floor + 1 else floor, exponent)
  | true, false => some (floor, exponent)
  | false, true => some (floor + 1, exponent)
  | false, false => none

/-- Digits and exponent of the shortest decimal that is read as `m · 2 ^ q`. -/
def decimal (m : Nat) (q : Int) : Nat × Int :=
  let i := interval m q
  let place := firstPlace i.value i.den
  ((List.range 18).findSome? (withDigits? i place)).getD (0, 0)

/-- The digits without zeros at the end. -/
def significant (digits : Nat) : Text :=
  Text.trimRight (· == .char '0') (Text.ofNat digits)

end Shortest

/-- How a decimal is laid out: the places of the point for which no exponent is written, and the
texts of what is not finite. -/
structure DecimalLayout where
  leastPlace : Int
  greatestPlace : Int
  infinity : Text
  notANumber : Text

namespace DecimalLayout

/-- Lays out digits of which the point stands after the first `place`. -/
def layOut (style : DecimalLayout) (digits : Text) (place : Int) : Text :=
  let zeros (n : Nat) : Text := List.replicate n (.char '0')
  if style.leastPlace ≤ place && place ≤ style.greatestPlace then
    if place ≤ 0 then "0." ++ zeros place.natAbs ++ digits
    else if digits.length ≤ place.natAbs then
      digits ++ zeros (place.natAbs - digits.length) ++ ".0"
    else digits.take place.natAbs ++ "." ++ digits.drop place.natAbs
  else
    let fraction : Text := if digits.length ≤ 1 then [] else "." ++ digits.drop 1
    let exponent := place - 1
    let sign : Text := if exponent < 0 then "e-" else "e+"
    digits.take 1 ++ fraction ++ sign ++ Text.padded 2 exponent.natAbs

/-- The text of a number. -/
def render (style : DecimalLayout) (x : Float) : Text :=
  let signed (negative : Bool) (t : Text) : Text := if negative then "-" ++ t else t
  match Binary.ofFloat x with
  | .notANumber => style.notANumber
  | .infinite negative => signed negative style.infinity
  | .finite negative 0 _ => signed negative "0.0"
  | .finite negative m q =>
    let (digits, exponent) := Shortest.decimal m q
    let shown := Shortest.significant digits
    signed negative (style.layOut shown ((Text.ofNat digits).length + exponent))

end DecimalLayout

end MailFilter
