import MailFilter.Text.Basic
import MailFilter.Text.CaseTable

/-!
# Small and capital letters

The full case mappings of Unicode, which may turn one code point into several. The small letter of
a capital sigma depends on its place: at the end of a word it is `ς`, elsewhere `σ`.

- `Text.lower`, `Text.upper`: the mappings of whole texts.
- `Text.lowerFirst`, `Text.upperFirst`: the mappings of the first code point alone.
- `Text.lower_of_isAscii`: the small form of an ASCII text.
- `Text.upper_append`: capitals of a concatenation; `lower` has no such law because of the sigma.
-/

namespace MailFilter

namespace CodePoint

/-- The small form of a code point on its own. -/
def lower (c : CodePoint) : Text :=
  if c.isAscii then [c.asciiFold]
  else match CaseTable.lowerSpecial.lookup c.toNat with
    | some several => several.map ofNat
    | none => [((CaseRun.find? CaseTable.lowerRuns c.toNat).map ofNat).getD c]

/-- The capital form of a code point. -/
def upper (c : CodePoint) : Text :=
  match c with
  | .char a =>
    if c.isAscii then [.char a.toUpper]
    else match CaseTable.upperSpecial.lookup c.toNat with
      | some several => several.map ofNat
      | none => [((CaseRun.find? CaseTable.upperRuns c.toNat).map ofNat).getD c]
  | .surrogate _ => [c]

/-- A letter that has a case, marks and modifiers excepted. -/
def isCased (c : CodePoint) : Bool :=
  c.isIn CaseTable.casedRanges

/-- A mark or modifier that a look at the case of a neighbour passes over. -/
def isCaseIgnorable (c : CodePoint) : Bool :=
  c.isIn CaseTable.ignorableRanges

end CodePoint

namespace Text

/-- Whether the nearest code point that is not ignorable has a case. -/
def nextIsCased (neighbours : Text) : Bool :=
  match neighbours.dropWhile CodePoint.isCaseIgnorable with
  | c :: _ => c.isCased
  | [] => false

/-- The small form of a text that follows the code points `before`, the nearest first. -/
def lowerAfter (before : Text) : Text → Text
  | [] => []
  | c :: rest =>
    let small :=
      if c = .char 'Σ' then
        if nextIsCased before && !nextIsCased rest then [CodePoint.char 'ς'] else [.char 'σ']
      else c.lower
    small ++ lowerAfter (c :: before) rest

/-- The text in small letters. -/
def lower (t : Text) : Text :=
  lowerAfter [] t

/-- The text in capital letters. -/
def upper (t : Text) : Text :=
  t.flatMap CodePoint.upper

/-- The text with its first code point in small letters. -/
def lowerFirst (t : Text) : Text :=
  lower (t.take 1) ++ t.drop 1

/-- The text with its first code point in capital letters. -/
def upperFirst (t : Text) : Text :=
  upper (t.take 1) ++ t.drop 1

@[simp] theorem lower_nil : lower [] = [] := rfl

@[simp] theorem upper_nil : upper [] = [] := rfl

theorem lowerAfter_of_isAscii (before : Text) {t : Text} (h : ∀ c ∈ t, c.isAscii = true) :
    lowerAfter before t = t.asciiFold := by
  induction t generalizing before with
  | nil => rfl
  | cons c t ih =>
    obtain ⟨hc, ht⟩ := List.forall_mem_cons.mp h
    have hsigma : c ≠ .char 'Σ' := by rintro rfl; exact absurd hc (by decide)
    rw [lowerAfter, ih _ ht, if_neg hsigma, CodePoint.lower, if_pos hc]
    rfl

/-- The small form of an ASCII text is found letter by letter. -/
theorem lower_of_isAscii {t : Text} (h : ∀ c ∈ t, c.isAscii = true) : t.lower = t.asciiFold :=
  lowerAfter_of_isAscii [] h

theorem upper_append (s t : Text) : upper (s ++ t) = upper s ++ upper t :=
  List.flatMap_append ..

end Text

end MailFilter
