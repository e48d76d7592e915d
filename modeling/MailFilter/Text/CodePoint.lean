/-!
# Code points

A text is a sequence of Unicode code points. Beside the scalar values, which are Lean's `Char`, a
text may hold *lone surrogates*: half of a surrogate pair that has lost its other half. They arise
from escapes such as `\ud800` in a quoted scalar or an object, and from bytes of a mail that are
not text in any known encoding.

- `CodePoint`: a scalar value or a lone surrogate.
- `CodePoint.toNat`, `CodePoint.ofNat?`: the number of a code point and back.
- `CodePoint.ofNat?_toNat`: a code point is read back from its number.
-/

namespace MailFilter

/-- A Unicode code point: a scalar value, or the surrogate `U+D800 + offset`. -/
inductive CodePoint where
  | char (c : Char)
  | surrogate (offset : Fin 0x800)
  deriving DecidableEq, Inhabited, Repr

namespace CodePoint

instance : Coe Char CodePoint := ⟨.char⟩

/-- The number of a code point. -/
def toNat : CodePoint → Nat
  | .char c => c.toNat
  | .surrogate offset => 0xD800 + offset.val

/-- The code point of a number below `0x110000`. -/
def ofNat? (n : Nat) : Option CodePoint :=
  if n.isValidChar then some (.char (Char.ofNat n))
  else if h : 0xD800 ≤ n ∧ n < 0xE000 then some (.surrogate ⟨n - 0xD800, by omega⟩)
  else none

/-- The code point of a number, `U+FFFD` where the number has none. -/
def ofNat (n : Nat) : CodePoint :=
  (ofNat? n).getD (.char '\uFFFD')

theorem ofNat?_toNat (c : CodePoint) : ofNat? c.toNat = some c := by
  cases c with
  | char c =>
    have h : c.toNat.isValidChar := c.valid
    simp only [ofNat?, toNat, h, ↓reduceIte, Char.ofNat_toNat]
  | surrogate i =>
    have below := i.isLt
    have invalid : ¬ (0xD800 + i.val).isValidChar := by
      unfold Nat.isValidChar
      omega
    have inside : 0xD800 ≤ 0xD800 + i.val ∧ 0xD800 + i.val < 0xE000 := by omega
    simp only [ofNat?, toNat, invalid, ↓reduceIte, ↓reduceDIte, inside, and_self, Option.some.injEq,
      CodePoint.surrogate.injEq]
    exact Fin.ext (Nat.add_sub_cancel_left ..)

/-! ## ASCII classes -/

/-- An ASCII digit. -/
def isDigit : CodePoint → Bool
  | .char c => c.isDigit
  | .surrogate _ => false

/-- The value of an ASCII digit, `0` for any other code point. -/
def digitValue : CodePoint → Nat
  | .char c => if c.isDigit then c.toNat - '0'.toNat else 0
  | .surrogate _ => 0

/-- An ASCII letter. -/
def isLetter : CodePoint → Bool
  | .char c => c.isAlpha
  | .surrogate _ => false

/-- An ASCII letter or digit. -/
def isAlphanum : CodePoint → Bool
  | .char c => c.isAlphanum
  | .surrogate _ => false

/-- The value of a hexadecimal digit. -/
def hexValue? : CodePoint → Option Nat
  | .char c =>
    if '0' ≤ c ∧ c ≤ '9' then some (c.toNat - '0'.toNat)
    else if 'a' ≤ c ∧ c ≤ 'f' then some (c.toNat - 'a'.toNat + 10)
    else if 'A' ≤ c ∧ c ≤ 'F' then some (c.toNat - 'A'.toNat + 10)
    else none
  | .surrogate _ => none

/-- Maps `A` to `Z` to small letters and keeps every other code point. -/
def asciiFold : CodePoint → CodePoint
  | .char c => .char c.toLower
  | .surrogate i => .surrogate i

/-- Whether the number of a code point lies in one of the ranges, both ends included. -/
def isIn (ranges : List (Nat × Nat)) (c : CodePoint) : Bool :=
  ranges.any fun (first, last) => first ≤ c.toNat && c.toNat ≤ last

/-- Numbered below `0x80`. -/
def isAscii (c : CodePoint) : Bool :=
  c.toNat < 0x80

theorem isAscii_of_isAlphanum {c : CodePoint} (h : c.isAlphanum = true) : c.isAscii = true := by
  cases c with
  | surrogate => contradiction
  | char c =>
    have hc : c.isAlphanum = true := h
    unfold Char.isAlphanum Char.isAlpha Char.isUpper Char.isLower Char.isDigit at hc
    simp only [Bool.or_eq_true, Bool.and_eq_true, decide_eq_true_eq, ge_iff_le,
      UInt32.le_iff_toNat_le, Char.reduceVal, UInt32.reduceToNat] at hc
    refine decide_eq_true (?_ : c.val.toNat < 0x80)
    omega

/-- Folding changes no digit, and makes no digit of another code point. -/
@[simp] theorem isDigit_asciiFold (c : CodePoint) : c.asciiFold.isDigit = c.isDigit := by
  cases c with
  | surrogate => rfl
  | char c =>
    show c.toLower.isDigit = c.isDigit
    unfold Char.toLower
    split
    · next hupper =>
      rw [Bool.eq_iff_iff]
      simp only [Char.isDigit, Bool.and_eq_true, decide_eq_true_eq]
      grind
    · rfl

end CodePoint

end MailFilter
