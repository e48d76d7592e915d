import Mathlib
import MailFilter.Match.Comparison
import MailFilter.Proofs.Text.Parts

/-!
# Comparing texts as numbers

To the numeric comparator a text is the number that the ASCII digits at its beginning denote, and
all texts without such digits are alike. Zeros in front do not matter, nor does what follows the
digits.

- `Comparison.BeginsWithDigits`: the digits at the beginning of a text.
- `Comparison.numberOf`: the number that digits denote, in positional notation.
- `Comparison.groups_asciiNumeric`: what comparing two texts as numbers answers.
- `Comparison.groups_asciiNumeric_many_digits`: more than `digitLimit` digits are not compared.

The limit is one of converting digits to a number. The comparison itself has no need of it.
-/

namespace MailFilter

namespace Comparison

/-- A text begins with these digits, and no digit follows them. -/
def BeginsWithDigits (t digits : Text) : Prop :=
  (∀ c ∈ digits, c.isDigit = true) ∧
    ∃ rest, t = digits ++ rest ∧ ∀ c ∈ rest.head?, c.isDigit = false

/-- The number that digits denote, the last one counting least. -/
def numberOf (digits : Text) : Nat :=
  Nat.ofDigits 10 (digits.reverse.map CodePoint.digitValue)

theorem beginsWithDigits_iff {t digits : Text} :
    BeginsWithDigits t digits ↔ t.takeWhile CodePoint.isDigit = digits := by
  constructor
  · rintro ⟨hdigits, rest, rfl, hrest⟩
    exact (Text.takeWhile_dropWhile_append _ rest hdigits hrest).1
  · rintro rfl
    refine ⟨fun c hc => List.mem_takeWhile_imp hc, t.dropWhile CodePoint.isDigit, ?_, ?_⟩
    · exact List.takeWhile_append_dropWhile.symm
    · -- what stops the digits is no digit
      intro c hc
      have hstops := List.head?_dropWhile_not CodePoint.isDigit t
      rw [Option.mem_def.mp hc] at hstops
      simpa using hstops

/-- Reading digits from the left, each one ten times what is read so far, is positional notation. -/
theorem digitsValue_eq (digits : Text) : digits.digitsValue = numberOf digits := by
  rw [numberOf, Nat.ofDigits_eq_foldr, List.foldr_map, List.foldr_reverse]
  unfold Text.digitsValue
  congr 1
  funext n c
  rw [Nat.cast_id, Nat.add_comm]

/-- A text without digits has no number, and one with too many of them cannot be converted. -/
theorem number?_eq {t digits : Text} (h : BeginsWithDigits t digits) :
    number? t =
      if digitLimit < digits.length then .error .badValue
      else .ok (if digits = [] then none else some (numberOf digits)) := by
  unfold number?
  dsimp only
  rw [beginsWithDigits_iff.mp h, digitsValue_eq]
  cases digits with
  | nil => rfl
  | cons c rest => rfl

/-- The numbers of both texts are taken, the one of the value first. -/
theorem groups_whole_asciiNumeric (value key : Text) :
    groups .whole .asciiNumeric value key =
      match number? value, number? key with
      | .ok a, .ok b => .ok (noGroupsIf (a == b))
      | .error fault, _ | _, .error fault => .error (.fault fault) := rfl

/-- No groups are answered if both texts begin with digits that denote the same number, however many
zeros stand in front, or if neither begins with a digit. Everything else is no match. Texts with more
than `digitLimit` digits are not compared at all: the comparison breaks off by a fault. -/
theorem groups_asciiNumeric {value key v k : Text} (hv : BeginsWithDigits value v)
    (hk : BeginsWithDigits key k) :
    groups .whole .asciiNumeric value key =
      if digitLimit < v.length ∨ digitLimit < k.length then .error (.fault .badValue)
      else if (v ≠ [] ∧ k ≠ [] ∧ numberOf v = numberOf k) ∨ (v = [] ∧ k = []) then .ok (some [])
      else .ok none := by
  rw [groups_whole_asciiNumeric, number?_eq hv, number?_eq hk]
  -- the value is converted first, so its length counts even if the key is too long as well
  by_cases hlongValue : digitLimit < v.length
  · have hlong : digitLimit < v.length ∨ digitLimit < k.length := .inl hlongValue
    rw [if_pos hlong, if_pos hlongValue]
  · by_cases hlongKey : digitLimit < k.length
    · have hlong : digitLimit < v.length ∨ digitLimit < k.length := .inr hlongKey
      rw [if_pos hlong, if_neg hlongValue, if_pos hlongKey]
    · have hshort : ¬(digitLimit < v.length ∨ digitLimit < k.length) :=
        not_or.mpr ⟨hlongValue, hlongKey⟩
      rw [if_neg hshort, if_neg hlongValue, if_neg hlongKey]
      -- a text without a number differs from every number, but not from another one without
      by_cases hnoValue : v = [] <;> by_cases hnoKey : k = [] <;>
        simp [hnoValue, hnoKey, noGroupsIf, apply_ite]

/-- Zeros in front and letters behind make no difference. -/
theorem groups_asciiNumeric_zeros :
    BeginsWithDigits "007 agents" "007" ∧ BeginsWithDigits "7" "7" ∧
      groups .whole .asciiNumeric "007 agents" "7" = .ok (some []) := by
  have hvalue : BeginsWithDigits "007 agents" "007" := beginsWithDigits_iff.mpr (by decide)
  have hkey : BeginsWithDigits "7" "7" := beginsWithDigits_iff.mpr (by decide)
  refine ⟨hvalue, hkey, ?_⟩
  rw [groups_asciiNumeric hvalue hkey, if_neg (by decide), if_pos (.inl (by decide))]

/-- A text of too many nines is not even the same number as itself. -/
theorem groups_asciiNumeric_many_digits :
    let nines : Text := List.replicate 4301 (.char '9')
    BeginsWithDigits nines nines ∧
      groups .whole .asciiNumeric nines nines = .error (.fault .badValue) := by
  intro nines
  have hdigits : BeginsWithDigits nines nines := by
    refine ⟨fun c hc => ?_, [], (List.append_nil _).symm, nofun⟩
    rw [List.eq_of_mem_replicate hc]
    rfl
  have hlong : digitLimit < nines.length := by
    rw [List.length_replicate]
    decide
  have hnumber : number? nines = .error .badValue := by
    rw [number?_eq hdigits, if_pos hlong]
  refine ⟨hdigits, ?_⟩
  rw [groups_whole_asciiNumeric, hnumber]

end Comparison

end MailFilter
