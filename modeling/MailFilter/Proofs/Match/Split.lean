import MailFilter.Match.Comparison

/-!
# Splits of a value along a glob

The search for the groups of a glob tries long runs first and falls back to shorter ones. Here the
answers it may give are said without a search: a *split* writes the value as the items of the glob
in order, with a group for each wildcard.

- `Glob.Splits`: the splits of a value.
- `Glob.Shorter`: the order of splits by the lengths of their groups, the leftmost first.
- `Glob.splits_of_groups?`: what is found is a split.
- `Glob.groups?_of_splits`: if there is a split then one is found, and no other one is greater.
- `Comparison.groups_octet_glob`: what comparing code point by code point with a glob answers.
-/

namespace MailFilter

namespace Glob

variable {same : CodePoint → CodePoint → Bool}

/-- The ways to write a value as the items of a glob in order, with a group for each wildcard: a
literal stands for a code point that is the same, `?` for any one code point, `*` for any run. -/
inductive Splits (same : CodePoint → CodePoint → Bool) : Glob → List Text → Text → Prop
  | nil : Splits same [] [] []
  | literal {k c : CodePoint} {items : Glob} {groups : List Text} {value : Text} :
      same k c = true → Splits same items groups value →
        Splits same (.literal k :: items) groups (c :: value)
  | any (c : CodePoint) {items : Glob} {groups : List Text} {value : Text} :
      Splits same items groups value → Splits same (.any :: items) ([c] :: groups) (c :: value)
  | run (group : Text) {items : Glob} {groups : List Text} {value : Text} :
      Splits same items groups value →
        Splits same (.run :: items) (group :: groups) (group ++ value)

/-- The first group of which the lengths differ is shorter. -/
def Shorter (groups other : List Text) : Prop :=
  List.Lex (· < ·) (groups.map List.length) (other.map List.length)

theorem shorter_cons_cons {group first : Text} {groups other : List Text} :
    Shorter (group :: groups) (first :: other) ↔
      group.length < first.length ∨ group.length = first.length ∧ Shorter groups other :=
  List.cons_lex_cons_iff

/-- A code point more in both first groups changes nothing. -/
theorem Shorter.growFirst (c : CodePoint) {groups other : List Text} (h : Shorter groups other) :
    Shorter (growFirst c groups) (growFirst c other) := by
  cases groups with
  | nil =>
    cases other with
    | nil => exact h
    | cons => exact .nil
  | cons group groups =>
    cases other with
    | nil => nomatch h
    | cons first other =>
      refine shorter_cons_cons.mpr ?_
      simpa using shorter_cons_cons.mp h

/-- What is found is a split of the value. -/
theorem splits_of_groups? {glob : Glob} {value : Text} {groups : List Text}
    (h : groups? same glob value = some groups) : Splits same glob groups value := by
  fun_induction groups? same glob value generalizing groups with
  | case1 =>
    obtain rfl := Option.some.injEq .. ▸ h
    exact .nil
  | case2 | case3 | case5 | case6 => contradiction
  | case4 items k c rest hsame ih => exact .literal hsame (ih h)
  | case7 items c rest ih =>
    obtain ⟨gs, hgs, rfl⟩ := Option.map_eq_some_iff.mp h
    exact .any c (ih hgs)
  | case8 items ih =>
    obtain ⟨gs, hgs, rfl⟩ := Option.map_eq_some_iff.mp h
    exact .run [] (ih hgs)
  -- the run went on, so its group is one longer than that of the rest
  | case9 items c rest gs hgs ih =>
    obtain rfl := Option.some.injEq .. ▸ h
    cases ih hgs with
    | run group hrest => exact .run (c :: group) hrest
  | case10 items c rest _ _ ih =>
    obtain ⟨gs, hgs, rfl⟩ := Option.map_eq_some_iff.mp h
    exact .run [] (ih hgs)

/-- A run takes some beginning of the value and leaves the rest to the items behind it. -/
theorem splits_run_inv {items : Glob} {groups : List Text} {value : Text}
    (h : Splits same (.run :: items) groups value) :
    ∃ group others rest,
      groups = group :: others ∧ value = group ++ rest ∧ Splits same items others rest := by
  cases h with
  | run group hrest => exact ⟨group, _, _, rfl, rfl, hrest⟩

/-- The other groups are the same, or shorter. -/
def AtLeast (groups other : List Text) : Prop :=
  other = groups ∨ Shorter other groups

theorem AtLeast.cons (group : Text) {groups other : List Text} (h : AtLeast groups other) :
    AtLeast (group :: groups) (group :: other) := by
  rcases h with rfl | hshorter
  · exact .inl rfl
  · exact .inr (shorter_cons_cons.mpr (.inr ⟨rfl, hshorter⟩))

/-- Where there is a split the search finds one, and it is at least as great. -/
theorem groups?_of_splits {glob : Glob} {value : Text} {other : List Text}
    (h : Splits same glob other value) :
    ∃ groups, groups? same glob value = some groups ∧ AtLeast groups other := by
  fun_induction groups? same glob value generalizing other with
  | case1 =>
    cases h
    exact ⟨[], rfl, .inl rfl⟩
  | case2 => cases h
  | case3 => cases h
  | case4 items k c rest hsame ih =>
    cases h with
    | literal _ hrest => exact ih hrest
  | case5 items k c rest hdiffer =>
    cases h with
    | literal hsame _ => exact absurd hsame hdiffer
  | case6 => cases h
  | case7 items c rest ih =>
    cases h with
    | any _ hrest =>
      obtain ⟨groups, hgroups, hleast⟩ := ih hrest
      exact ⟨[c] :: groups, by rw [hgroups]; rfl, hleast.cons [c]⟩
  -- nothing is left for the run to take
  | case8 items ih =>
    obtain ⟨group, others, rest, rfl, hvalue, hrest⟩ := splits_run_inv h
    obtain ⟨rfl, rfl⟩ := List.append_eq_nil_iff.mp hvalue.symm
    obtain ⟨groups, hgroups, hleast⟩ := ih hrest
    exact ⟨[] :: groups, by rw [hgroups]; rfl, hleast.cons []⟩
  | case9 items c rest found hfound ih =>
    -- the first group that was found is not empty, and other ones compete behind `c` only
    refine ⟨growFirst c found, rfl, ?_⟩
    obtain ⟨first, firsts, tail, rfl, -, -⟩ := splits_run_inv (splits_of_groups? hfound)
    obtain ⟨group, others, behind, rfl, hvalue, hrest⟩ := splits_run_inv h
    cases group with
    | nil => exact .inr (shorter_cons_cons.mpr (.inl (Nat.zero_lt_succ _)))
    | cons d group =>
      obtain ⟨rfl, rfl⟩ := List.cons.inj hvalue
      obtain ⟨groups, hgroups, hleast⟩ := ih (.run group hrest)
      obtain rfl := Option.some.inj (hgroups.symm.trans hfound)
      rcases hleast with heq | hshorter
      · exact .inl (congrArg (growFirst c) heq)
      · exact .inr (hshorter.growFirst c)
  | case10 items c rest hnone ihLong ihShort =>
    obtain ⟨group, others, behind, rfl, hvalue, hrest⟩ := splits_run_inv h
    cases group with
    | nil =>
      obtain rfl : c :: rest = behind := hvalue
      obtain ⟨groups, hgroups, hleast⟩ := ihShort hrest
      exact ⟨[] :: groups, by rw [hgroups]; rfl, hleast.cons []⟩
    | cons d group =>
      -- a longer run would have been found before
      obtain ⟨rfl, rfl⟩ := List.cons.inj hvalue
      obtain ⟨groups, hgroups, -⟩ := ihLong (.run group hrest)
      rw [hnone] at hgroups
      contradiction

end Glob

namespace Comparison

/-- Texts are compared code point by code point, whatever the match type is, and that never fails. -/
theorem groups_of_texts {c : Comparator} (hc : c = .asciiCasemap ∨ c = .octet)
    (matchType : MatchType) (value key : Text) :
    groups matchType c value key = .ok (textGroups matchType c.same value key) := by
  rcases hc with rfl | rfl <;> cases matchType <;> rfl

/-- Comparing with a glob code point by code point never fails. It answers no groups exactly if the
value cannot be written as the items of the key; otherwise it answers one group for each wildcard,
and these groups split the value in such a way that every other split has shorter groups. -/
theorem groups_octet_glob (value key : Text) :
    ∃ answer, groups .glob .octet value key = .ok answer ∧
      (answer = none ↔
        ¬ ∃ split, Glob.Splits (fun k c => k = c) (Glob.ofText key) split value) ∧
      ∀ split, answer = some split →
        split.length = (Glob.ofText key).countP GlobItem.isWildcard ∧
        Glob.Splits (fun k c => k = c) (Glob.ofText key) split value ∧
        ∀ other, Glob.Splits (fun k c => k = c) (Glob.ofText key) other value →
          other = split ∨ Glob.Shorter other split := by
  refine ⟨Glob.groups? (fun k c => k = c) (Glob.ofText key) value, rfl, ?_, ?_⟩
  · rw [Option.eq_none_iff_forall_ne_some]
    constructor
    · rintro hnone ⟨split, hsplit⟩
      obtain ⟨found, hfound, -⟩ := Glob.groups?_of_splits hsplit
      exact hnone found hfound
    · intro hno split hfound
      exact hno ⟨split, Glob.splits_of_groups? hfound⟩
  · intro split hfound
    refine ⟨Glob.length_groups? hfound, Glob.splits_of_groups? hfound, fun other hother => ?_⟩
    obtain ⟨greatest, hgreatest, hleast⟩ := Glob.groups?_of_splits hother
    obtain rfl := Option.some.inj (hgreatest.symm.trans hfound)
    exact hleast

end Comparison

end MailFilter
