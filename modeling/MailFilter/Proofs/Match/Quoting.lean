import Mathlib
import MailFilter.Proofs.Match.Split
import MailFilter.Variable.Modifier

/-!
# Quoted text in globs

A value of a variable may be put into a glob so that it stands for itself: a backslash is put before
each backslash and wildcard. Read back, the quoted value is a run of literals, and nothing of it
reaches into what stands behind it. What stands before it can reach into it only by a backslash that
is left over at its end, so the backslashes there have to come in pairs.

- `Glob.ofText_append`: a glob is read part by part where no backslash is left over.
- `Glob.ofText_quoteGlob_append`: a quoted text is read as its own code points.
- `Glob.splits_append_iff`, `Glob.splits_literals_iff`: the splits along two globs, and along
  literals.
- `Comparison.groups_quoted`: a glob with a quoted text in it matches the values that hold the text,
  and all groups belong to the two sides.
-/

namespace MailFilter

namespace Glob

/-! ## Reading part by part -/

/-- How many backslashes stand at the end of a text. -/
def backslashesAtEnd (t : Text) : Nat :=
  (t.rtakeWhile (· = .char '\\')).length

/-- What does not end a text does not end the rest of it either. -/
theorem getLast?_ne_of_cons {c d : CodePoint} {t : Text} (h : (c :: t).getLast? ≠ some d) :
    t.getLast? ≠ some d := by
  cases t with
  | nil => simp
  | cons e rest => rwa [List.getLast?_cons_cons] at h

/-- Behind a code point that is no backslash a new item begins, whether the code point is an item of
its own or belongs to a backslash before it. -/
theorem ofText_append_of_getLast? {stem : Text} (h : stem.getLast? ≠ some (.char '\\')) (t : Text) :
    ofText (stem ++ t) = ofText stem ++ ofText t := by
  fun_induction ofText stem with
  | case1 => rfl
  | case2 c rest ih =>
    rw [List.cons_append, List.cons_append, ofText_escaped,
      ih (getLast?_ne_of_cons (getLast?_ne_of_cons h)), List.cons_append]
  | case3 rest ih =>
    rw [List.cons_append, ofText_star, ih (getLast?_ne_of_cons h), List.cons_append]
  | case4 rest ih =>
    rw [List.cons_append, ofText_question, ih (getLast?_ne_of_cons h), List.cons_append]
  | case5 c rest hback hrun hany ih =>
    -- a backslash would be the last code point, for otherwise it has another one behind it
    have hc : c ≠ .char '\\' := by
      rintro rfl
      cases rest with
      | nil => exact h rfl
      | cons d rest => exact hback d rest rfl rfl
    rw [List.cons_append, ofText_plain hc hrun hany, ih (getLast?_ne_of_cons h), List.cons_append]

/-- Two backslashes are one item. -/
theorem ofText_replicate_append (n : Nat) (t : Text) :
    ofText (List.replicate (2 * n) (.char '\\') ++ t) =
      List.replicate n (.literal (.char '\\')) ++ ofText t := by
  induction n with
  | zero => rfl
  | succ n ih =>
    show ofText (.char '\\' :: .char '\\' :: (List.replicate (2 * n) (.char '\\') ++ t)) = _
    rw [ofText_escaped, ih]
    rfl

/-- Where the backslashes at the end of a text come in pairs, what follows is read on its own. -/
theorem ofText_append {p : Text} (h : Even (backslashesAtEnd p)) (t : Text) :
    ofText (p ++ t) = ofText p ++ ofText t := by
  obtain ⟨n, hn⟩ := h.exists_two_nsmul
  -- the text is a stem that does not end in a backslash, and the backslashes
  have hpairs : p.rtakeWhile (· = .char '\\') = List.replicate (2 * n) (.char '\\') := by
    refine List.eq_replicate_iff.mpr ⟨hn, fun c hc => ?_⟩
    simpa using List.mem_rtakeWhile_imp hc
  have hstem : (p.rdropWhile (· = .char '\\')).getLast? ≠ some (.char '\\') := by
    intro hlast
    have hne : p.rdropWhile (· = .char '\\') ≠ [] := by
      intro hnil
      rw [hnil] at hlast
      contradiction
    rw [List.getLast?_eq_some_getLast hne] at hlast
    exact List.rdropWhile_last_not _ _ hne (by simpa using hlast)
  have hpairsRead := ofText_replicate_append n []
  rw [List.append_nil, ofText_nil, List.append_nil] at hpairsRead
  have hp : p.rdropWhile (· = .char '\\') ++ List.replicate (2 * n) (.char '\\') = p := by
    rw [← hpairs]
    exact List.rdropWhile_append_rtakeWhile
  rw [← hp, List.append_assoc, ofText_append_of_getLast? hstem, ofText_append_of_getLast? hstem,
    ofText_replicate_append, hpairsRead, List.append_assoc]

/-- A quoted text is read as its own code points. -/
theorem ofText_quoteGlob_append (v t : Text) :
    ofText (Modifier.quoteGlob v ++ t) = v.map .literal ++ ofText t := by
  induction v with
  | nil => rfl
  | cons c v ih =>
    have hcons : Modifier.quoteGlob (c :: v) ++ t =
        (if Modifier.isGlobSpecial c then [.char '\\', c] else [c]) ++
          (Modifier.quoteGlob v ++ t) := by
      simp [Modifier.quoteGlob]
    rw [hcons]
    split
    · show ofText (.char '\\' :: c :: (Modifier.quoteGlob v ++ t)) = _
      rw [ofText_escaped, ih]
      rfl
    · next hplain =>
      simp only [Modifier.isGlobSpecial, Bool.or_eq_true, decide_eq_true_eq, not_or] at hplain
      obtain ⟨⟨hback, hrun⟩, hany⟩ := hplain
      rw [List.singleton_append, ofText_plain hback hrun hany, ih]
      rfl

theorem pattern_append (g h : Glob) : pattern (g ++ h) = pattern g ++ pattern h :=
  List.flatMap_append ..

theorem pattern_literals (v : Text) : pattern (v.map .literal) = v.flatMap escapeRegex :=
  List.flatMap_map ..

/-! ## Splitting part by part -/

variable {same : CodePoint → CodePoint → Bool}

/-- A split has a group for each wildcard. -/
theorem Splits.length_groups {glob : Glob} {groups : List Text} {value : Text}
    (h : Splits same glob groups value) : groups.length = glob.countP GlobItem.isWildcard := by
  induction h with
  | nil => rfl
  | literal _ _ ih => simp [GlobItem.isWildcard, ih]
  | any c _ ih => rw [List.length_cons, ih, List.countP_cons_of_pos rfl]
  | run group _ ih => rw [List.length_cons, ih, List.countP_cons_of_pos rfl]

theorem Splits.append {g h : Glob} {first last : List Text} {before after : Text}
    (hg : Splits same g first before) (hh : Splits same h last after) :
    Splits same (g ++ h) (first ++ last) (before ++ after) := by
  induction hg with
  | nil => exact hh
  | literal hsame _ ih => exact .literal hsame ih
  | any c _ ih => exact .any c ih
  | run group _ ih =>
    rw [List.append_assoc]
    exact .run group ih

/-- The splits along two globs: a split along the first one and a split along the second one. -/
theorem splits_append_iff {g h : Glob} {groups : List Text} {value : Text} :
    Splits same (g ++ h) groups value ↔
      ∃ first last before after, groups = first ++ last ∧ value = before ++ after ∧
        Splits same g first before ∧ Splits same h last after := by
  constructor
  · intro hsplit
    induction g generalizing groups value with
    | nil => exact ⟨[], groups, [], value, rfl, rfl, .nil, hsplit⟩
    | cons item g ih =>
      cases hsplit with
      | literal hsame hrest =>
        obtain ⟨first, last, before, after, rfl, rfl, hg, hh⟩ := ih hrest
        exact ⟨first, last, _ :: before, after, rfl, rfl, .literal hsame hg, hh⟩
      | any c hrest =>
        obtain ⟨first, last, before, after, rfl, rfl, hg, hh⟩ := ih hrest
        exact ⟨[c] :: first, last, c :: before, after, rfl, rfl, .any c hg, hh⟩
      | run group hrest =>
        obtain ⟨first, last, before, after, rfl, rfl, hg, hh⟩ := ih hrest
        exact ⟨group :: first, last, group ++ before, after, rfl, (List.append_assoc ..).symm,
          .run group hg, hh⟩
  · rintro ⟨first, last, before, after, rfl, rfl, hg, hh⟩
    exact hg.append hh

/-- The search finds nothing exactly if there is no split. -/
theorem groups?_eq_none_iff {glob : Glob} {value : Text} :
    groups? same glob value = none ↔ ¬ ∃ split, Splits same glob split value := by
  constructor
  · rintro hnone ⟨split, hsplit⟩
    obtain ⟨found, hfound, -⟩ := groups?_of_splits hsplit
    rw [hnone] at hfound
    contradiction
  · intro hno
    exact Option.eq_none_iff_forall_ne_some.mpr fun split hfound =>
      hno ⟨split, splits_of_groups? hfound⟩

/-- Literals match a text that is the same, code point by code point, and take no group. -/
theorem splits_literals_iff {v value : Text} {groups : List Text} :
    Splits same (v.map .literal) groups value ↔
      groups = [] ∧ List.Forall₂ (fun k c => same k c = true) v value := by
  constructor
  · intro hsplit
    induction v generalizing value with
    | nil => cases hsplit; exact ⟨rfl, .nil⟩
    | cons k v ih =>
      cases hsplit with
      | literal hsame hrest =>
        obtain ⟨rfl, hall⟩ := ih hrest
        exact ⟨rfl, .cons hsame hall⟩
  · rintro ⟨rfl, hall⟩
    induction hall with
    | nil => exact .nil
    | cons hsame _ ih => exact .literal hsame ih

end Glob

namespace Comparator

/-- What a comparator of texts sees of a text. -/
def folded : Comparator → Text → Text
  | .asciiCasemap, t => t.asciiFold
  | _, t => t

/-- Texts are the same code point by code point if and only if the comparator sees no difference. -/
theorem forall₂_same_iff (c : Comparator) {v held : Text} :
    List.Forall₂ (fun a b => c.same a b = true) v held ↔ c.folded v = c.folded held := by
  cases c with
  | asciiCasemap =>
    simp only [same, decide_eq_true_eq, folded, Text.asciiFold, ← List.forall₂_eq_eq_eq,
      List.forall₂_map_left_iff, List.forall₂_map_right_iff]
  | octet | asciiNumeric => simp [same, folded, List.forall₂_eq_eq_eq]

end Comparator

namespace Comparison

/-- The value holds a text, up to what the comparator sees of it, and is split along one glob before
the text and along another one behind it. -/
def HoldsBetween (c : Comparator) (first : Glob) (v : Text) (last : Glob) (groups : List Text)
    (value : Text) : Prop :=
  ∃ groupsBefore groupsAfter before held after,
    groups = groupsBefore ++ groupsAfter ∧ value = before ++ held ++ after ∧
      Glob.Splits c.same first groupsBefore before ∧ c.folded v = c.folded held ∧
      Glob.Splits c.same last groupsAfter after

theorem splits_between_iff {c : Comparator} {first last : Glob} {v : Text} {groups : List Text}
    {value : Text} :
    Glob.Splits c.same (first ++ v.map .literal ++ last) groups value ↔
      HoldsBetween c first v last groups value := by
  rw [List.append_assoc, Glob.splits_append_iff]
  constructor
  · rintro ⟨groupsBefore, _, before, _, rfl, rfl, hfirst, hrest⟩
    obtain ⟨none, groupsAfter, held, after, rfl, rfl, hheld, hlast⟩ :=
      Glob.splits_append_iff.mp hrest
    obtain ⟨rfl, hsame⟩ := Glob.splits_literals_iff.mp hheld
    exact ⟨groupsBefore, groupsAfter, before, held, after, rfl, (List.append_assoc ..).symm, hfirst,
      c.forall₂_same_iff.mp hsame, hlast⟩
  · rintro ⟨groupsBefore, groupsAfter, before, held, after, rfl, rfl, hfirst, hsame, hlast⟩
    have hheld := Glob.splits_literals_iff.mpr ⟨rfl, c.forall₂_same_iff.mpr hsame⟩
    exact ⟨groupsBefore, groupsAfter, before, held ++ after, rfl, List.append_assoc .., hfirst,
      hheld.append hlast⟩

/-- A quoted text in a glob stands for itself, whatever stands around it, if the backslashes before
it come in pairs. The pattern of the glob is that of the first part, the escaped code points of the
text, and that of the second part. A value matches if and only if it holds the text between what the
two parts stand for, and the groups are those of the first part and those of the second part. -/
theorem groups_quoted {p : Text} (hp : Even (Glob.backslashesAtEnd p)) (v s : Text) :
    ∃ q, Modifier.quoteWildcard.apply v = .ok q ∧
      Glob.pattern (Glob.ofText (p ++ q ++ s)) =
        Glob.pattern (Glob.ofText p) ++ v.flatMap Glob.escapeRegex ++
          Glob.pattern (Glob.ofText s) ∧
      ∀ c : Comparator, c = .asciiCasemap ∨ c = .octet → ∀ value : Text,
        ∃ answer, groups .glob c value (p ++ q ++ s) = .ok answer ∧
          (answer = none ↔
            ¬ ∃ split, HoldsBetween c (Glob.ofText p) v (Glob.ofText s) split value) ∧
          ∀ split, answer = some split →
            HoldsBetween c (Glob.ofText p) v (Glob.ofText s) split value ∧
            split.length = (Glob.ofText p).countP GlobItem.isWildcard +
              (Glob.ofText s).countP GlobItem.isWildcard := by
  have hread : Glob.ofText (p ++ Modifier.quoteGlob v ++ s) =
      Glob.ofText p ++ v.map .literal ++ Glob.ofText s := by
    rw [List.append_assoc, Glob.ofText_append hp, Glob.ofText_quoteGlob_append, List.append_assoc]
  refine ⟨Modifier.quoteGlob v, rfl, ?_, fun c hc value => ?_⟩
  · rw [hread, Glob.pattern_append, Glob.pattern_append, Glob.pattern_literals]
  · have hanswer : groups .glob c value (p ++ Modifier.quoteGlob v ++ s) =
        .ok (Glob.groups? c.same (Glob.ofText p ++ v.map .literal ++ Glob.ofText s) value) := by
      rw [← hread]
      rcases hc with rfl | rfl <;> rfl
    refine ⟨_, hanswer, ?_, fun split hfound => ?_⟩
    · simp only [Glob.groups?_eq_none_iff, splits_between_iff]
    · have hholds := splits_between_iff.mp (Glob.splits_of_groups? hfound)
      refine ⟨hholds, ?_⟩
      obtain ⟨groupsBefore, groupsAfter, _, _, _, rfl, -, hfirst, -, hlast⟩ := hholds
      rw [List.length_append, hfirst.length_groups, hlast.length_groups]

/-- The key begins with a run and a pair of backslashes, and the text with another backslash. -/
theorem groups_quoted_behind_backslashes :
    let p : Text := "*\\\\"
    let v : Text := "\\*Z"
    let s : Text := "?"
    Even (Glob.backslashesAtEnd p) ∧
      ∃ q, Modifier.quoteWildcard.apply v = .ok q ∧
        Glob.pattern (Glob.ofText (p ++ q ++ s)) = ("(.*)\\\\\\\\\\*Z(.)" : Text) ∧
        groups .glob .asciiCasemap "x\\\\*z!" (p ++ q ++ s) = .ok (some ["x", "!"]) ∧
        HoldsBetween .asciiCasemap (Glob.ofText p) v (Glob.ofText s) ["x", "!"] "x\\\\*z!" := by
  intro p v s
  have hp : Even (Glob.backslashesAtEnd p) := by decide
  obtain ⟨q, hq, hpattern, hgroups⟩ := groups_quoted hp v s
  obtain ⟨answer, hanswer, -, hsome⟩ := hgroups .asciiCasemap (.inl rfl) "x\\\\*z!"
  obtain rfl : Modifier.quoteGlob v = q := Except.ok.inj hq
  have hfound : groups .glob .asciiCasemap "x\\\\*z!" (p ++ Modifier.quoteGlob v ++ s) =
      .ok (some ["x", "!"]) := by cbv
  obtain rfl := Except.ok.inj (hanswer.symm.trans hfound)
  refine ⟨hp, _, rfl, ?_, hfound, (hsome _ rfl).1⟩
  rw [hpattern]
  decide

end Comparison

end MailFilter
