import Mathlib
import MailFilter.Proofs.Match.Quoting

/-!
# Quoted text and the three match types

Looking for a text in a value as a whole, looking for it in a part of the value, and comparing the
value with a glob are three searches. On a key that is quoted they agree: the quoted key as a glob
matches what the key matches as a whole, and between two runs it matches what the key matches as a
part. The first run is as long as it can be, so it ends where the key occurs last.

- `Text.beginsBy_iff`, `Text.occursBy_iff`: what the searches for a whole and for a part find.
- `Comparator.Holds`, `Comparator.HoldsLast`: a text between two parts of a value.
- `Comparison.textGroups_whole`, `Comparison.textGroups_part`: the two match types without groups.
- `Comparison.groups?_literals`, `Comparison.holdsLast_of_groups?`: the two globs.
- `Comparison.matchTypes_agree_on_quoted`: how the match types agree.

Numbers are not compared with globs, and nothing is said of them here.
-/

namespace MailFilter

/-! ## Searches -/

namespace Text

variable {same : CodePoint → CodePoint → Bool}

/-- A text begins with another if its first code points are the same. -/
theorem beginsBy_iff {start t : Text} :
    beginsBy same start t = true ↔
      ∃ held after, t = held ++ after ∧ List.Forall₂ (fun k c => same k c = true) start held := by
  induction start generalizing t with
  | nil => exact iff_of_true rfl ⟨[], t, rfl, .nil⟩
  | cons k start ih =>
    cases t with
    | nil =>
      refine iff_of_false Bool.false_ne_true ?_
      rintro ⟨held, after, hnil, hsame⟩
      obtain ⟨rfl, rfl⟩ := List.append_eq_nil_iff.mp hnil.symm
      cases hsame
    | cons c t =>
      rw [beginsBy, Bool.and_eq_true, ih]
      constructor
      · rintro ⟨hfirst, held, after, rfl, hrest⟩
        exact ⟨c :: held, after, rfl, .cons hfirst hrest⟩
      · rintro ⟨held, after, hvalue, hsame⟩
        cases hsame with
        | cons hfirst hrest =>
          obtain ⟨rfl, rfl⟩ := List.cons.inj hvalue
          exact ⟨hfirst, _, after, rfl, hrest⟩

/-- A text occurs in another if it begins somewhere in it. -/
theorem occursBy_iff {part t : Text} :
    occursBy same part t = true ↔
      ∃ before held after, t = before ++ held ++ after ∧
        List.Forall₂ (fun k c => same k c = true) part held := by
  induction t with
  | nil =>
    rw [occursBy, List.isEmpty_iff]
    constructor
    · rintro rfl
      exact ⟨[], [], [], rfl, .nil⟩
    · rintro ⟨before, held, after, hnil, hsame⟩
      obtain ⟨hleft, -⟩ := List.append_eq_nil_iff.mp hnil.symm
      obtain ⟨-, rfl⟩ := List.append_eq_nil_iff.mp hleft
      cases hsame
      rfl
  | cons c t ih =>
    rw [occursBy, Bool.or_eq_true, beginsBy_iff, ih]
    constructor
    · rintro (⟨held, after, hvalue, hsame⟩ | ⟨before, held, after, rfl, hsame⟩)
      · exact ⟨[], held, after, hvalue, hsame⟩
      · exact ⟨c :: before, held, after, rfl, hsame⟩
    · rintro ⟨before, held, after, hvalue, hsame⟩
      -- it begins here, or somewhere in the rest
      cases before with
      | nil => exact .inl ⟨held, after, hvalue, hsame⟩
      | cons d before =>
        obtain ⟨rfl, rfl⟩ := List.cons.inj hvalue
        exact .inr ⟨before, held, after, rfl, hsame⟩

end Text

namespace Comparator

/-- A text stands between two parts of a value, up to what the comparator sees of it. -/
def Holds (c : Comparator) (t value before after : Text) : Prop :=
  ∃ held, value = before ++ held ++ after ∧ c.folded t = c.folded held

/-- A text stands between two parts of a value, and nowhere farther behind. -/
def HoldsLast (c : Comparator) (t value before after : Text) : Prop :=
  c.Holds t value before after ∧
    ∀ other rest, c.Holds t value other rest → other.length ≤ before.length

end Comparator

/-! ## Match types -/

namespace Comparison

variable {c : Comparator} {value key : Text}

theorem noGroupsIf_ne_none_iff {condition : Bool} :
    noGroupsIf condition ≠ none ↔ condition = true := by
  cases condition <;> simp [noGroupsIf]

/-- The whole value is the key, up to what the comparator sees. -/
theorem textGroups_whole :
    textGroups .whole c.same value key = noGroupsIf (c.folded key = c.folded value) := by
  have hwhole : (key.length == value.length && Text.beginsBy c.same key value) = true ↔
      c.folded key = c.folded value := by
    rw [Bool.and_eq_true, beq_iff_eq, Text.beginsBy_iff, ← c.forall₂_same_iff]
    constructor
    · rintro ⟨hlength, held, after, rfl, hsame⟩
      -- texts that are the same are of one length, so nothing is left behind the key
      have hnil : after.length = 0 := by
        have := hsame.length_eq
        rw [List.length_append] at hlength
        omega
      rw [List.length_eq_zero_iff.mp hnil, List.append_nil]
      exact hsame
    · intro hsame
      exact ⟨hsame.length_eq, value, [], (List.append_nil value).symm, hsame⟩
  exact congrArg noGroupsIf (Bool.eq_iff_iff.mpr (hwhole.trans decide_eq_true_iff.symm))

/-- The value holds the key somewhere. -/
theorem textGroups_part :
    textGroups .part c.same value key ≠ none ↔ ∃ before after, c.Holds key value before after := by
  rw [textGroups, noGroupsIf_ne_none_iff, Text.occursBy_iff]
  simp only [c.forall₂_same_iff, Comparator.Holds]
  constructor
  · rintro ⟨before, held, after, hvalue, hsame⟩
    exact ⟨before, after, held, hvalue, hsame⟩
  · rintro ⟨before, after, held, hvalue, hsame⟩
    exact ⟨before, held, after, hvalue, hsame⟩

theorem textGroups_glob :
    textGroups .glob c.same value key = Glob.groups? c.same (Glob.ofText key) value := rfl

/-- A glob of literals matches as their text does as a whole. -/
theorem groups?_literals :
    Glob.groups? c.same (key.map .literal) value = textGroups .whole c.same value key := by
  rw [textGroups_whole]
  by_cases hsame : c.folded key = c.folded value
  · have hsplit : Glob.Splits c.same (key.map .literal) [] value :=
      Glob.splits_literals_iff.mpr ⟨rfl, c.forall₂_same_iff.mpr hsame⟩
    obtain ⟨split, hfound, -⟩ := Glob.groups?_of_splits hsplit
    obtain ⟨rfl, -⟩ := Glob.splits_literals_iff.mp (Glob.splits_of_groups? hfound)
    rw [hfound, noGroupsIf, if_pos (decide_eq_true hsame)]
  · -- a split along literals would be the value itself
    have hnone : Glob.groups? c.same (key.map .literal) value = none := by
      refine Glob.groups?_eq_none_iff.mpr ?_
      rintro ⟨split, hsplit⟩
      exact hsame (c.forall₂_same_iff.mp (Glob.splits_literals_iff.mp hsplit).2)
    rw [hnone, noGroupsIf, if_neg (by simpa using hsame)]

/-- A run alone takes the whole value. -/
theorem splits_singleton_run_iff {same : CodePoint → CodePoint → Bool} {split : List Text} :
    Glob.Splits same [.run] split value ↔ split = [value] := by
  constructor
  · intro hsplit
    obtain ⟨group, others, rest, rfl, rfl, hrest⟩ := Glob.splits_run_inv hsplit
    cases hrest
    rw [List.append_nil]
  · rintro rfl
    have hsplit : Glob.Splits same [.run] [value] (value ++ []) := .run value .nil
    rwa [List.append_nil] at hsplit

/-- The splits along a text between two runs are the places where the value holds the text. -/
theorem splits_between_runs_iff {split : List Text} :
    Glob.Splits c.same ([.run] ++ key.map .literal ++ [.run]) split value ↔
      ∃ before after, split = [before, after] ∧ c.Holds key value before after := by
  rw [splits_between_iff]
  simp only [HoldsBetween, splits_singleton_run_iff]
  constructor
  · rintro ⟨_, _, before, held, after, rfl, rfl, rfl, hsame, rfl⟩
    exact ⟨before, after, rfl, held, rfl, hsame⟩
  · rintro ⟨before, after, rfl, held, rfl, hsame⟩
    exact ⟨[before], [after], before, held, after, rfl, rfl, rfl, hsame, rfl⟩

/-- Between two runs a text is found where it stands last. -/
theorem holdsLast_of_groups? {split : List Text}
    (h : Glob.groups? c.same ([.run] ++ key.map .literal ++ [.run]) value = some split) :
    ∃ before after, split = [before, after] ∧ c.HoldsLast key value before after := by
  obtain ⟨before, after, rfl, hholds⟩ := splits_between_runs_iff.mp (Glob.splits_of_groups? h)
  -- a place farther behind would be a split with a longer first group, and the greatest is found
  refine ⟨before, after, rfl, hholds, fun other rest hother => ?_⟩
  obtain ⟨found, hfound, hleast⟩ :=
    Glob.groups?_of_splits (splits_between_runs_iff.mpr ⟨other, rest, rfl, hother⟩)
  obtain rfl := Option.some.inj (hfound.symm.trans h)
  rcases hleast with heq | hshorter
  · rw [(List.cons.inj heq).1]
  · rcases Glob.shorter_cons_cons.mp hshorter with hlt | ⟨heq, -⟩
    · exact hlt.le
    · exact heq.le

theorem groups?_between_runs_ne_none_iff :
    Glob.groups? c.same ([.run] ++ key.map .literal ++ [.run]) value ≠ none ↔
      ∃ before after, c.Holds key value before after := by
  rw [Ne, Glob.groups?_eq_none_iff, not_not]
  constructor
  · rintro ⟨split, hsplit⟩
    obtain ⟨before, after, -, hholds⟩ := splits_between_runs_iff.mp hsplit
    exact ⟨before, after, hholds⟩
  · rintro ⟨before, after, hholds⟩
    exact ⟨[before, after], splits_between_runs_iff.mpr ⟨before, after, rfl, hholds⟩⟩

/-- A quoted key as a glob matches exactly the values that are the key, and there are no groups. With
a run on both sides it matches exactly the values that hold the key somewhere, and the groups are
what stands before and behind the last place where they do. -/
theorem matchTypes_agree_on_quoted (hc : c = .asciiCasemap ∨ c = .octet) (value key : Text) :
    ∃ q, Modifier.quoteWildcard.apply key = .ok q ∧
      groups .glob c value q = groups .whole c value key ∧
      groups .whole c value key = .ok (noGroupsIf (c.folded key = c.folded value)) ∧
      ∃ around within, groups .glob c value (("*" : Text) ++ q ++ ("*" : Text)) = .ok around ∧
        groups .part c value key = .ok within ∧ (around ≠ none ↔ within ≠ none) ∧
        ∀ split, around = some split →
          ∃ before after, split = [before, after] ∧ c.HoldsLast key value before after := by
  have hquoted : Glob.ofText (Modifier.quoteGlob key) = key.map .literal := by
    have hread := Glob.ofText_quoteGlob_append key []
    rwa [List.append_nil, Glob.ofText, List.append_nil] at hread
  have haround : Glob.ofText (("*" : Text) ++ Modifier.quoteGlob key ++ ("*" : Text)) =
      [.run] ++ key.map .literal ++ [.run] := by
    rw [List.append_assoc, Glob.ofText_append (by decide), Glob.ofText_quoteGlob_append]
    rfl
  refine ⟨Modifier.quoteGlob key, rfl, ?_, ?_, _, _, groups_of_texts hc .glob value _,
    groups_of_texts hc .part value key, ?_, fun split hfound => ?_⟩
  · rw [groups_of_texts hc, groups_of_texts hc, textGroups_glob, hquoted, groups?_literals]
  · rw [groups_of_texts hc, textGroups_whole]
  · rw [textGroups_glob, haround, groups?_between_runs_ne_none_iff, textGroups_part]
  · rw [textGroups_glob, haround] at hfound
    exact holdsLast_of_groups? hfound

/-- The key occurs twice, the second time from the end of the first one on, and letter cases differ. -/
theorem matchTypes_agree_on_quoted_overlapping :
    ∃ q, Modifier.quoteWildcard.apply "a*A" = .ok q ∧
      groups .glob .asciiCasemap "xA*a*A!" q = .ok none ∧
      groups .part .asciiCasemap "xA*a*A!" "a*A" = .ok (some []) ∧
      groups .glob .asciiCasemap "xA*a*A!" (("*" : Text) ++ q ++ ("*" : Text)) =
        .ok (some ["xA*", "!"]) ∧
      Comparator.asciiCasemap.HoldsLast "a*A" "xA*a*A!" "xA*" "!" := by
  obtain ⟨q, hq, hglob, hwhole, around, within, haround, -, -, hlast⟩ :=
    matchTypes_agree_on_quoted (c := .asciiCasemap) (.inl rfl) "xA*a*A!" "a*A"
  obtain rfl : Modifier.quoteGlob "a*A" = q := Except.ok.inj hq
  have hfound : groups .glob .asciiCasemap "xA*a*A!"
      (("*" : Text) ++ Modifier.quoteGlob "a*A" ++ ("*" : Text)) = .ok (some ["xA*", "!"]) := by cbv
  obtain rfl := Except.ok.inj (haround.symm.trans hfound)
  obtain ⟨before, after, hsplit, hholds⟩ := hlast _ rfl
  obtain ⟨rfl, hrest⟩ := List.cons.inj hsplit
  obtain ⟨rfl, -⟩ := List.cons.inj hrest
  have hdiffer : noGroupsIf (Comparator.asciiCasemap.folded "a*A" =
      Comparator.asciiCasemap.folded "xA*a*A!") = none := by decide
  rw [hdiffer] at hwhole
  exact ⟨_, rfl, hglob.trans hwhole, by cbv, hfound, hholds⟩

end Comparison

end MailFilter
