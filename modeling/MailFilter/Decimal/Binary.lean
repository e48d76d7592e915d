/-!
# Binary floating-point numbers as exact ratios

A finite number in double precision is `m · 2 ^ q` up to its sign. Reading a ratio of naturals as
the nearest such number, ties going to the even `m`, is done in exact arithmetic.

- `Binary`: sign, significand `m` and exponent `q` of a finite number, or what is not finite.
- `Binary.ofFloat`: the parts of a number.
- `Binary.ofRatio`: the number nearest to a ratio of naturals.
- `Binary.toInt?`: the value of a number that is whole.
-/

namespace MailFilter

/-- The parts of a number in double precision. -/
inductive Binary where
  | finite (negative : Bool) (significand : Nat) (exponent : Int)
  | infinite (negative : Bool)
  | notANumber
  deriving DecidableEq

namespace Binary

/-- Decodes the bits of a number. -/
def ofFloat (x : Float) : Binary :=
  let bits : Nat := x.toBits.toNat
  let negative := bits / Nat.pow 2 63 == 1
  let exponent : Nat := bits / Nat.pow 2 52 % Nat.pow 2 11
  let fraction : Nat := bits % Nat.pow 2 52
  if exponent = 2047 then
    if fraction = 0 then .infinite negative else .notANumber
  else if exponent = 0 then .finite negative fraction (-1074)
  else .finite negative (Nat.pow 2 52 + fraction) ((exponent : Int) - 1075)

/-- Rounds a ratio to the nearest natural, a half going to the even neighbour. -/
def roundRatio (num den : Nat) : Nat :=
  let floor := num / den
  let twice := 2 * (num % den)
  if den < twice || (twice == den && floor % 2 == 1) then floor + 1 else floor

/-- The bits of the number in double precision that is nearest to `num / den`. -/
def bitsOfRatio (num den : Nat) : Nat :=
  if num = 0 then 0
  else
    -- `2 ^ (e - 1) ≤ num / den < 2 ^ (e + 1)`
    let e : Int := (num.log2 : Int) - den.log2
    let scaled (q : Int) : Nat × Nat :=
      if q < 0 then (num * Nat.pow 2 q.natAbs, den) else (num, den * Nat.pow 2 q.natAbs)
    let least (q : Int) : Bool :=
      let (n, d) := scaled q
      Nat.pow 2 52 * d ≤ n
    let q := max (-1074) (if least (e - 52) then e - 52 else e - 53)
    let (n, d) := scaled q
    let m := roundRatio n d
    -- a significand of `2 ^ 53` carries into the exponent field by itself
    let bits := ((q + 1074).toNat) * Nat.pow 2 52 + m
    min bits (2047 * Nat.pow 2 52)

/-- The number in double precision that is nearest to `num / den`. -/
def ofRatio (negative : Bool) (num den : Nat) : Float :=
  let bits := bitsOfRatio num den
  Float.ofBits (.ofNat (if negative then Nat.pow 2 63 + bits else bits))

/-- The number nearest to `digits · 10 ^ exponent`. Exponents far outside the range of double
precision are decided by the place of the first digit. -/
def ofDecimal (negative : Bool) (digits : Nat) (exponent : Int) : Float :=
  let places : Int := (Nat.toDigits 10 digits).length + exponent
  if digits = 0 || places < -400 then ofRatio negative 0 1
  else if 400 < places then ofRatio negative (Nat.pow 10 400) 1
  else if exponent < 0 then ofRatio negative digits (Nat.pow 10 exponent.natAbs)
  else ofRatio negative (digits * Nat.pow 10 exponent.natAbs) 1

/-- The number nearest to an integer. -/
def ofInt (n : Int) : Float :=
  ofRatio (n < 0) n.natAbs 1

/-- The value of a number that is whole. -/
def toInt? : Binary → Option Int
  | .finite negative m q =>
    let magnitude? : Option Nat :=
      if 0 ≤ q then some (m * Nat.pow 2 q.natAbs)
      else if m % Nat.pow 2 q.natAbs = 0 then some (m / Nat.pow 2 q.natAbs)
      else none
    magnitude?.map fun n => if negative then -(n : Int) else n
  | .infinite _ | .notANumber => none

end Binary

end MailFilter
