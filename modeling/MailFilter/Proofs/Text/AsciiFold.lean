import Mathlib
import MailFilter.Text.CodePoint

/-!
# Folding ASCII letters

Folding turns the capital ASCII letters into small ones. It touches nothing else, however much some
other code point looks like a letter.

- `CodePoint.asciiFold_eq_self`, `CodePoint.asciiFold_eq_iff`: only letters are folded.
- `CodePoint.isAlphanum_asciiFold`, `CodePoint.isLetter_asciiFold`: classes closed under folding.
- `CodePoint.FoldsCapitals`: what folding does, said by numbers of code points.
- `CodePoint.foldsCapitals_iff`: folding does so, and nothing else does.
-/

namespace MailFilter

namespace CodePoint

@[simp] theorem isAlphanum_asciiFold (c : CodePoint) : c.asciiFold.isAlphanum = c.isAlphanum := by
  cases c with
  | surrogate => rfl
  | char c =>
    have hdigit : c.toLower.isDigit = c.isDigit := isDigit_asciiFold (.char c)
    show (c.toLower.isAlpha || c.toLower.isDigit) = (c.isAlpha || c.isDigit)
    rw [Char.isAlpha_toLower_eq_isAlpha, hdigit]

/-- Only letters have a small form of their own. -/
theorem asciiFold_eq_self {c : CodePoint} (h : c.isLetter = false) : c.asciiFold = c := by
  cases c with
  | surrogate => rfl
  | char c =>
    have hupper : c.isUpper = false := (Bool.or_eq_false_iff.mp h).1
    show CodePoint.char c.toLower = .char c
    rw [Char.toLower_eq_of_not_isUpper (Bool.eq_false_iff.mp hupper)]

@[simp] theorem isLetter_asciiFold (c : CodePoint) : c.asciiFold.isLetter = c.isLetter := by
  cases c with
  | surrogate => rfl
  | char c => exact Char.isAlpha_toLower_eq_isAlpha c

/-- What is no letter is the small form of nothing else. -/
theorem asciiFold_eq_iff {c mark : CodePoint} (h : mark.isLetter = false) :
    c.asciiFold = mark ↔ c = mark := by
  constructor
  · rintro rfl
    rw [isLetter_asciiFold] at h
    exact (asciiFold_eq_self h).symm
  · rintro rfl
    exact asciiFold_eq_self h

theorem isLetter_of_isDigit {c : CodePoint} (h : c.isDigit = true) : c.isLetter = false := by
  cases c with
  | surrogate => rfl
  | char c =>
    have hc : c.isDigit = true := h
    show c.isAlpha = false
    simp only [Char.isDigit, Bool.and_eq_true, decide_eq_true_eq] at hc
    simp only [Char.isAlpha, Char.isUpper, Char.isLower]
    grind

theorem toNat_injective : Function.Injective toNat := by
  intro c d h
  have hc := ofNat?_toNat c
  rw [h, ofNat?_toNat] at hc
  exact (Option.some.inj hc).symm

/-- Maps `A` to `Z` to `a` to `z`, and keeps every other code point. -/
def FoldsCapitals (f : CodePoint → CodePoint) : Prop :=
  ∀ c : CodePoint, (f c).toNat =
    if 'A'.toNat ≤ c.toNat ∧ c.toNat ≤ 'Z'.toNat then c.toNat + ('a'.toNat - 'A'.toNat) else c.toNat

theorem foldsCapitals_asciiFold : FoldsCapitals asciiFold := by
  intro c
  cases c with
  | surrogate i =>
    have hbeyond : ¬((surrogate i).toNat ≤ 'Z'.toNat) := by
      show ¬(0xD800 + i.val ≤ 90)
      omega
    rw [if_neg fun h => hbeyond h.2]
    rfl
  | char c =>
    show c.toLower.toNat = if 65 ≤ c.toNat ∧ c.toNat ≤ 90 then c.toNat + 32 else c.toNat
    have hupper : c.isUpper = true ↔ 65 ≤ c.toNat ∧ c.toNat ≤ 90 := by
      simp only [Char.isUpper, decide_eq_true_eq, ge_iff_le, UInt32.le_iff_toNat_le,
        Char.reduceVal, UInt32.reduceToNat, Char.toNat_val]
    by_cases h : c.isUpper = true
    · have hrange := hupper.mp h
      have hvalid : (c.toNat + 32).isValidChar := .inl (by omega)
      rw [if_pos hrange, Char.toLower_eq_of_isUpper h, Char.toNat_ofNat, if_pos hvalid]
    · rw [if_neg (h ∘ hupper.mpr), Char.toLower_eq_of_not_isUpper h]

/-- The two descriptions of folding are one. -/
theorem foldsCapitals_iff {f : CodePoint → CodePoint} : FoldsCapitals f ↔ f = asciiFold := by
  constructor
  · intro hf
    exact funext fun c => toNat_injective ((hf c).trans (foldsCapitals_asciiFold c).symm)
  · rintro rfl
    exact foldsCapitals_asciiFold

end CodePoint

end MailFilter
