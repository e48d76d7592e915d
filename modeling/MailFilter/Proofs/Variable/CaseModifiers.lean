import Mathlib
import MailFilter.Proofs.Text.Casing
import MailFilter.Variable.Modifier

/-!
# Quoting and the case modifiers

Quoting runs before the changes of letter case, and it moves everything behind a backslash or a
wildcard by one place. The changes of case do not notice: they keep backslashes and wildcards and make
none of anything else, and a capital sigma sees the end of a word in front of a backslash as it sees
one in front of the wildcard behind it. Quoting first therefore comes to the same as quoting last.

- `Modifier.isMark_of_isGlobSpecial`: backslashes and wildcards are marks for the case mappings.
- `Text.nextIsCased_quoteGlob`: what a capital sigma sees behind it.
- `Text.lower_quoteGlob`, `Text.upper_quoteGlob`, `Text.first_quoteGlob`: each change on its own.
- `Modifier.apply_quoteGlob`, `ModifierSet.apply_quoteGlob`: one modifier, and a run of them.
- `ModifierSet.apply_enable_quoteWildcard`: the quoted value of a set of case modifiers.
-/

namespace MailFilter

namespace Modifier

variable {c : CodePoint}

/-- None of the three is a letter, and all of them are in ASCII. -/
theorem isMark_of_isGlobSpecial (h : isGlobSpecial c = true) : c.IsMark := by
  simp only [isGlobSpecial, Bool.or_eq_true, decide_eq_true_eq] at h
  rcases h with (rfl | rfl) | rfl
  · exact ⟨by decide, by decide⟩
  · exact ⟨by decide, by decide⟩
  · exact ⟨by decide, by decide⟩

/-- A backslash is one of them. -/
theorem isMark_backslash : (CodePoint.char '\\').IsMark :=
  isMark_of_isGlobSpecial (by decide)

/-! ## Quoting, code point by code point -/

/-- What has a meaning of its own gets a backslash. -/
theorem quoteGlob_cons_special (h : isGlobSpecial c = true) (t : Text) :
    quoteGlob (c :: t) = .char '\\' :: c :: quoteGlob t := by
  simp [quoteGlob, h]

/-- What has no meaning of its own stays as it is. -/
theorem quoteGlob_cons_plain (h : isGlobSpecial c = false) (t : Text) :
    quoteGlob (c :: t) = c :: quoteGlob t := by
  simp [quoteGlob, h]

/-- Where nothing is special, quoting changes nothing. -/
theorem quoteGlob_eq_self {t : Text} (h : ∀ c ∈ t, isGlobSpecial c = false) : quoteGlob t = t := by
  induction t with
  | nil => rfl
  | cons c t ih =>
    obtain ⟨hc, ht⟩ := List.forall_mem_cons.mp h
    rw [quoteGlob_cons_plain hc, ih ht]

end Modifier

open Modifier

namespace Text

/-! ## Small letters -/

/-- A look at the case of a neighbour ends at what is special, and finds no case there. -/
theorem nextIsCased_cons_special {c : CodePoint} (h : isGlobSpecial c = true) (t : Text) :
    nextIsCased (c :: t) = false := by
  have hclasses : c.isCaseIgnorable = false ∧ c.isCased = false := by
    simp only [isGlobSpecial, Bool.or_eq_true, decide_eq_true_eq] at h
    rcases h with (rfl | rfl) | rfl
    · decide +kernel
    · decide +kernel
    · decide +kernel
  obtain ⟨hignorable, hcased⟩ := hclasses
  rw [nextIsCased, List.dropWhile_cons_of_neg (Bool.eq_false_iff.mp hignorable)]
  exact hcased

/-- What a look at a neighbour finds is decided by the nearest code point, or by what is found behind
it. -/
theorem nextIsCased_cons (c : CodePoint) (t : Text) :
    nextIsCased (c :: t) = if c.isCaseIgnorable then nextIsCased t else c.isCased := by
  unfold nextIsCased
  by_cases hignorable : c.isCaseIgnorable = true
  · rw [List.dropWhile_cons_of_pos hignorable, if_pos hignorable]
  · rw [List.dropWhile_cons_of_neg hignorable, if_neg hignorable]

/-- A capital sigma finds the same behind it whether the text is quoted or not. -/
theorem nextIsCased_quoteGlob (t : Text) : nextIsCased (quoteGlob t) = nextIsCased t := by
  induction t with
  | nil => rfl
  | cons c t ih =>
    cases hc : isGlobSpecial c with
    -- a backslash ends the look as the wildcard behind it would
    | true =>
      rw [quoteGlob_cons_special hc, nextIsCased_cons_special (by decide),
        nextIsCased_cons_special hc]
    | false => rw [quoteGlob_cons_plain hc, nextIsCased_cons, nextIsCased_cons, ih]

/-- No small form of a plain code point is special. -/
theorem quoteGlob_lower {c : CodePoint} (h : isGlobSpecial c = false) :
    quoteGlob c.lower = c.lower := by
  refine quoteGlob_eq_self fun d hd => Bool.eq_false_iff.mpr fun hspecial => ?_
  have hsame := CodePoint.eq_of_mem_lower (isMark_of_isGlobSpecial hspecial) hd
  rw [hsame, hspecial] at h
  contradiction

/-- The two texts before have to look the same to a capital sigma; then they do so behind one more
code point, be it quoted or not. -/
theorem lowerAfter_quoteGlob {before quoted : Text}
    (hbefore : nextIsCased quoted = nextIsCased before) (t : Text) :
    lowerAfter quoted (quoteGlob t) = quoteGlob (lowerAfter before t) := by
  induction t generalizing before quoted with
  | nil => rfl
  | cons c t ih =>
    have hbackslash : CodePoint.char '\\' ≠ .char 'Σ' := by decide
    cases hc : isGlobSpecial c with
    -- the backslash and what it quotes stay, and both hide the text before them from a sigma
    | true =>
      have hmark := isMark_of_isGlobSpecial hc
      have hsigma : c ≠ .char 'Σ' := by
        rintro rfl
        exact absurd hmark.isAscii (by decide)
      have hrest : nextIsCased (c :: .char '\\' :: quoted) = nextIsCased (c :: before) := by
        rw [nextIsCased_cons_special hc, nextIsCased_cons_special hc]
      rw [quoteGlob_cons_special hc, lowerAfter, lowerAfter, lowerAfter, if_neg hbackslash,
        if_neg hsigma, if_neg hsigma, isMark_backslash.lower_eq, hmark.lower_eq, ih hrest,
        quoteGlob_append, quoteGlob_cons_special hc]
      rfl
    | false =>
      have hrest : nextIsCased (c :: quoted) = nextIsCased (c :: before) := by
        rw [nextIsCased_cons, nextIsCased_cons, hbefore]
      rw [quoteGlob_cons_plain hc, lowerAfter, lowerAfter, hbefore, nextIsCased_quoteGlob, ih hrest,
        quoteGlob_append]
      congr 1
      split
      · -- neither small form of a sigma is special
        split <;> rfl
      · exact (quoteGlob_lower hc).symm

/-- Quoting and making small may change places. -/
theorem lower_quoteGlob (t : Text) : lower (quoteGlob t) = quoteGlob (lower t) :=
  lowerAfter_quoteGlob rfl t

/-! ## Capital letters -/

/-- No capital form of a plain code point is special. -/
theorem quoteGlob_upper {c : CodePoint} (h : isGlobSpecial c = false) :
    quoteGlob c.upper = c.upper := by
  refine quoteGlob_eq_self fun d hd => Bool.eq_false_iff.mpr fun hspecial => ?_
  have hsame := CodePoint.eq_of_mem_upper (isMark_of_isGlobSpecial hspecial) hd
  rw [hsame, hspecial] at h
  contradiction

/-- So may quoting and making large. -/
theorem upper_quoteGlob (t : Text) : upper (quoteGlob t) = quoteGlob (upper t) := by
  induction t with
  | nil => rfl
  | cons c t ih =>
    have hupper (d : CodePoint) (rest : Text) : upper (d :: rest) = d.upper ++ upper rest :=
      List.flatMap_cons ..
    cases hc : isGlobSpecial c with
    | true =>
      rw [quoteGlob_cons_special hc, hupper, hupper, hupper, isMark_backslash.upper_eq,
        (isMark_of_isGlobSpecial hc).upper_eq, ih]
      exact (quoteGlob_cons_special hc (upper t)).symm
    | false =>
      rw [quoteGlob_cons_plain hc, hupper, hupper, ih, quoteGlob_append, quoteGlob_upper hc]

/-! ## The first code point -/

/-- A change of the first code point alone. It meets the backslash of a quoted text instead of what is
quoted, and keeps both. -/
theorem first_quoteGlob {change : Text → Text}
    (hcommutes : ∀ t, change (quoteGlob t) = quoteGlob (change t)) (hnil : change [] = [])
    (hmark : ∀ c : CodePoint, c.IsMark → change [c] = [c]) (t : Text) :
    change ((quoteGlob t).take 1) ++ (quoteGlob t).drop 1 =
      quoteGlob (change (t.take 1) ++ t.drop 1) := by
  cases t with
  | nil =>
    show change [] ++ [] = quoteGlob (change [] ++ [])
    rw [hnil]
    rfl
  | cons c t =>
    show _ = quoteGlob (change [c] ++ t)
    rw [quoteGlob_append]
    cases hc : isGlobSpecial c with
    | true =>
      rw [quoteGlob_cons_special hc, hmark c (isMark_of_isGlobSpecial hc)]
      show change [.char '\\'] ++ c :: quoteGlob t = _
      rw [hmark _ isMark_backslash, quoteGlob_cons_special hc]
      rfl
    | false =>
      have hsingle : quoteGlob [c] = [c] := quoteGlob_cons_plain hc []
      rw [quoteGlob_cons_plain hc, ← hcommutes, hsingle]
      rfl

/-- So may quoting and making the first letter small. -/
theorem lowerFirst_quoteGlob (t : Text) : lowerFirst (quoteGlob t) = quoteGlob (lowerFirst t) := by
  refine first_quoteGlob lower_quoteGlob rfl (fun c hmark => ?_) t
  have hsigma : c ≠ .char 'Σ' := by
    rintro rfl
    exact absurd hmark.isAscii (by decide)
  rw [lower, lowerAfter, if_neg hsigma, hmark.lower_eq]
  rfl

/-- So may quoting and making the first letter large. -/
theorem upperFirst_quoteGlob (t : Text) : upperFirst (quoteGlob t) = quoteGlob (upperFirst t) := by
  refine first_quoteGlob upper_quoteGlob rfl (fun c hmark => ?_) t
  rw [upper, List.flatMap_singleton, hmark.upper_eq]

end Text

/-! ## Modifiers -/

namespace Modifier

/-- Changes the case of letters. -/
def changesCase : Modifier → Bool
  | .lower | .upper | .lowerFirst | .upperFirst => true
  | .quoteWildcard | .encodeUrl | .length => false

/-- A change of case never fails, and it does not matter whether it comes before quoting. -/
theorem apply_quoteGlob {m : Modifier} (h : m.changesCase = true) (t : Text) :
    ∃ changed, m.apply t = .ok changed ∧ m.apply (quoteGlob t) = .ok (quoteGlob changed) := by
  cases m with
  | lower => exact ⟨t.lower, rfl, congrArg Except.ok (Text.lower_quoteGlob t)⟩
  | upper => exact ⟨t.upper, rfl, congrArg Except.ok (Text.upper_quoteGlob t)⟩
  | lowerFirst => exact ⟨t.lowerFirst, rfl, congrArg Except.ok (Text.lowerFirst_quoteGlob t)⟩
  | upperFirst => exact ⟨t.upperFirst, rfl, congrArg Except.ok (Text.upperFirst_quoteGlob t)⟩
  | quoteWildcard | encodeUrl | length => cases h

/-- Nor does it matter for a run of such changes. -/
theorem foldlM_apply_quoteGlob {ms : List Modifier} (h : ∀ m ∈ ms, m.changesCase = true) (t : Text) :
    ∃ changed, ms.foldlM (fun t m => m.apply t) t = .ok changed ∧
      ms.foldlM (fun t m => m.apply t) (quoteGlob t) = .ok (quoteGlob changed) := by
  induction ms generalizing t with
  | nil => exact ⟨t, rfl, rfl⟩
  | cons m ms ih =>
    obtain ⟨hm, hms⟩ := List.forall_mem_cons.mp h
    obtain ⟨first, hfirst, hquoted⟩ := apply_quoteGlob hm t
    obtain ⟨changed, hchanged, hrest⟩ := ih hms first
    refine ⟨changed, ?_, ?_⟩
    · rw [List.foldlM_cons, hfirst]
      exact hchanged
    · rw [List.foldlM_cons, hquoted]
      exact hrest

end Modifier

namespace ModifierSet

variable {s : ModifierSet}

/-- Quoting is the first modifier of a set in which it is enabled. -/
theorem enabled_enable_quoteWildcard (h : s.has .quoteWildcard = false) :
    (s.enable .quoteWildcard).enabled = .quoteWildcard :: s.enabled := by
  simp [enabled, Modifier.all, enable, h, List.filter_cons]

/-- In a set of case modifiers quoting may be enabled as well: what comes out is the quoted form of
what the set makes of the value without it. Neither can fail. -/
theorem apply_enable_quoteWildcard (h : ∀ m, s.has m = true → m.changesCase = true) (v : Text) :
    ∃ changed quoted, s.apply v = .ok changed ∧ Modifier.quoteWildcard.apply changed = .ok quoted ∧
      (s.enable .quoteWildcard).apply v = .ok quoted := by
  have hcase : ∀ m ∈ s.enabled, m.changesCase = true := by
    intro m hm
    exact h m (List.mem_filter.mp hm).2
  have hquote : s.has .quoteWildcard = false := by
    refine Bool.eq_false_iff.mpr fun hhas => ?_
    cases h _ hhas
  obtain ⟨changed, hchanged, hquoted⟩ := foldlM_apply_quoteGlob hcase v
  refine ⟨changed, quoteGlob changed, hchanged, rfl, ?_⟩
  rw [ModifierSet.apply, enabled_enable_quoteWildcard hquote, List.foldlM_cons]
  exact hquoted

/-- A sigma ends its word in front of a wildcard, and the first code point is a quoted one. -/
theorem apply_enable_quoteWildcard_sigma :
    let s := ofList [.upperFirst, .lower]
    (∀ m, s.has m = true → m.changesCase = true) ∧ s.apply "?ΟΣ*ΑΣΑ" = .ok "?ος*ασα" ∧
      (s.enable .quoteWildcard).apply "?ΟΣ*ΑΣΑ" = .ok "\\?ος\\*ασα" := by
  intro s
  have h : ∀ m, s.has m = true → m.changesCase = true := by
    intro m
    cases m <;> decide
  obtain ⟨changed, quoted, hchanged, hquoted, hboth⟩ := apply_enable_quoteWildcard h "?ΟΣ*ΑΣΑ"
  have hanswer : s.apply "?ΟΣ*ΑΣΑ" = .ok "?ος*ασα" := by decide +kernel
  obtain rfl := Except.ok.inj (hanswer.symm.trans hchanged)
  obtain rfl := Except.ok.inj hquoted
  refine ⟨h, hanswer, hboth.trans ?_⟩
  decide

end ModifierSet

end MailFilter
