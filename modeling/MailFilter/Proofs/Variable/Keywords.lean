import Mathlib
import MailFilter.Proofs.Text.Casing
import MailFilter.Variable.Modifier

/-!
# Keywords of modifiers

A token names a modifier if it is the keyword of the modifier in ASCII letters of any case, with or
without one colon in front of it. The full case mappings let no other spelling in. A list of tokens
makes a set of modifiers if each token names one; otherwise the first that does not is refused.

- `Modifier.IsNamedBy`: a token names a modifier.
- `Modifier.ofToken?_eq_some_iff`: reading a token.
- `ModifierSet.FirstUnknown`: the first token of a list that names no modifier.
- `ModifierSet.ofTokens_eq_ok_iff`, `ModifierSet.ofTokens_eq_error_iff`: reading a list of tokens.
-/

namespace MailFilter

namespace Text

/-- The text without one leading colon. -/
def untagged : Text → Text
  | .char ':' :: rest => rest
  | t => t

theorem tagKeyword_eq (t : Text) : t.tagKeyword = t.untagged.lower := by
  unfold tagKeyword
  split
  · rfl
  · next hplain =>
    have huntagged : t.untagged = t := by
      unfold untagged
      split
      · next rest => exact absurd rfl (hplain rest)
      · rfl
    rw [huntagged]

end Text

namespace Modifier

variable {token : Text} {m : Modifier}

/-- A token names a modifier: it is the keyword in ASCII letters of any case, behind a colon or not. -/
def IsNamedBy (m : Modifier) (token : Text) : Prop :=
  token.untagged.asciiFold = m.keyword

instance (m : Modifier) (token : Text) : Decidable (m.IsNamedBy token) :=
  inferInstanceAs (Decidable (_ = _))

theorem keyword_injective : Function.Injective keyword := by
  have hall : ∀ m ∈ all, ∀ n ∈ all, m.keyword = n.keyword → m = n := by decide
  intro m n h
  exact hall m m.mem_all n n.mem_all h

/-- The Kelvin sign has the small form `k`, but no keyword has that letter. -/
theorem lower_eq_keyword_iff {word : Text} : word.lower = m.keyword ↔ word.asciiFold = m.keyword := by
  have hall : ∀ m ∈ all, ∀ d ∈ m.keyword, d.isAscii = true ∧ d ≠ .char 'k' := by decide
  exact Text.lower_eq_iff (hall m m.mem_all)

theorem ofToken?_eq_some_iff : ofToken? token = some m ↔ m.IsNamedBy token := by
  have hnames (n : Modifier) : n.keyword = token.tagKeyword ↔ n.IsNamedBy token := by
    rw [Text.tagKeyword_eq, eq_comm, lower_eq_keyword_iff, IsNamedBy]
  constructor
  · intro h
    have hfound := List.find?_some h
    exact (hnames m).mp (of_decide_eq_true hfound)
  · intro h
    have hm := (hnames m).mpr h
    cases hfound : ofToken? token with
    | none =>
      have hnot := List.find?_eq_none.mp hfound m m.mem_all
      exact absurd (decide_eq_true hm) hnot
    | some n =>
      -- the first modifier of this keyword is the only one
      have hn := List.find?_some hfound
      rw [keyword_injective ((of_decide_eq_true hn).trans hm.symm)]

theorem ofToken?_eq_none_iff : ofToken? token = none ↔ ∀ m : Modifier, ¬m.IsNamedBy token := by
  simp only [← ofToken?_eq_some_iff, Option.eq_none_iff_forall_ne_some, ne_eq]

end Modifier

namespace ModifierSet

variable {token : Text} {tokens : List Text} {e : SetError}

/-- The first token of a list that names no modifier. -/
def FirstUnknown (tokens : List Text) (token : Text) : Prop :=
  ∃ known rest, tokens = known ++ token :: rest ∧
    (∀ t ∈ known, ∃ m : Modifier, m.IsNamedBy t) ∧ ∀ m : Modifier, ¬m.IsNamedBy token

theorem firstUnknown_cons_of_named {m : Modifier} (h : m.IsNamedBy token) (rest : List Text)
    (other : Text) : FirstUnknown (token :: rest) other ↔ FirstUnknown rest other := by
  constructor
  · rintro ⟨known, after, hsplit, hknown, hother⟩
    cases known with
    | nil =>
      -- the first token would be unknown and named
      obtain ⟨rfl, -⟩ := List.cons.inj hsplit
      exact absurd h (hother m)
    | cons t known =>
      obtain ⟨rfl, hrest⟩ := List.cons.inj hsplit
      exact ⟨known, after, hrest, (List.forall_mem_cons.mp hknown).2, hother⟩
  · rintro ⟨known, after, rfl, hknown, hother⟩
    exact ⟨token :: known, after, rfl, List.forall_mem_cons.mpr ⟨⟨m, h⟩, hknown⟩, hother⟩

theorem firstUnknown_cons_of_unnamed (h : ∀ m : Modifier, ¬m.IsNamedBy token) (rest : List Text)
    (other : Text) : FirstUnknown (token :: rest) other ↔ other = token := by
  constructor
  · rintro ⟨known, after, hsplit, hknown, -⟩
    cases known with
    | nil => exact (List.cons.inj hsplit).1.symm
    | cons t known =>
      obtain ⟨rfl, -⟩ := List.cons.inj hsplit
      obtain ⟨m, hm⟩ := hknown token List.mem_cons_self
      exact absurd hm (h m)
  · rintro rfl
    exact ⟨[], rest, rfl, List.forall_mem_nil _, h⟩

/-- The modifiers of a list of tokens are read one by one. -/
theorem mapM_ofToken_eq_ok_iff {ms : List Modifier} :
    tokens.mapM ofToken = .ok ms ↔ tokens.map Modifier.ofToken? = ms.map some := by
  induction tokens generalizing ms with
  | nil => cases ms <;> simp [pure, Except.pure]
  | cons t rest ih =>
    rw [List.mapM_cons, List.map_cons]
    cases hread : Modifier.ofToken? t with
    | none => cases ms <;> simp [ofToken, hread, bind, Except.bind]
    | some m =>
      cases hrest : rest.mapM ofToken with
      | error cause =>
        cases ms <;> simp [ofToken, hread, hrest, bind, Except.bind, ← ih]
      | ok others =>
        cases ms <;> simp [ofToken, hread, hrest, bind, Except.bind, pure, Except.pure, ← ih]

theorem mapM_ofToken_eq_error_iff :
    tokens.mapM ofToken = .error e ↔
      ∃ token, FirstUnknown tokens token ∧ e = .unknownModifier token := by
  induction tokens with
  | nil =>
    constructor
    · nofun
    · rintro ⟨token, ⟨known, rest, hsplit, -⟩, -⟩
      cases known <;> cases hsplit
  | cons t rest ih =>
    rw [List.mapM_cons]
    cases hread : Modifier.ofToken? t with
    | none =>
      have hunnamed := Modifier.ofToken?_eq_none_iff.mp hread
      simp only [firstUnknown_cons_of_unnamed hunnamed, exists_eq_left, ofToken, hread]
      exact ⟨fun h => by cases h; rfl, fun h => by cases h; rfl⟩
    | some m =>
      have hnamed := Modifier.ofToken?_eq_some_iff.mp hread
      simp only [firstUnknown_cons_of_named hnamed, ← ih, ofToken, hread]
      cases rest.mapM ofToken with
      | error cause => exact ⟨fun h => by cases h; rfl, fun h => by cases h; rfl⟩
      | ok others => exact ⟨nofun, nofun⟩

/-- Tokens of which one names no modifier are refused for the first such one. -/
theorem ofTokens_eq_error_iff :
    ofTokens tokens = .error e ↔
      ∃ token, FirstUnknown tokens token ∧ e = .unknownModifier token := by
  rw [← mapM_ofToken_eq_error_iff]
  unfold ofTokens
  cases tokens.mapM ofToken with
  | error cause => exact ⟨fun h => by cases h; rfl, fun h => by cases h; rfl⟩
  | ok ms => exact ⟨nofun, nofun⟩

/-- Tokens make a set of modifiers if each of them names one. The set holds those that are named. -/
theorem ofTokens_eq_ok_iff {s : ModifierSet} :
    ofTokens tokens = .ok s ↔
      (∀ t ∈ tokens, ∃ m : Modifier, m.IsNamedBy t) ∧
        ∀ m, s.has m = true ↔ ∃ t ∈ tokens, m.IsNamedBy t := by
  have hmem {ms : List Modifier} (h : tokens.map Modifier.ofToken? = ms.map some) (m : Modifier) :
      m ∈ ms ↔ ∃ t ∈ tokens, m.IsNamedBy t := by
    have hsome : m ∈ ms ↔ some m ∈ ms.map some := by simp
    rw [hsome, ← h, List.mem_map]
    simp only [Modifier.ofToken?_eq_some_iff]
  unfold ofTokens
  cases hread : tokens.mapM ofToken with
  | error cause =>
    obtain ⟨token, ⟨known, rest, rfl, -, hunnamed⟩, -⟩ := mapM_ofToken_eq_error_iff.mp hread
    constructor
    · nofun
    · rintro ⟨hnamed, -⟩
      obtain ⟨m, hm⟩ := hnamed token (by simp)
      exact absurd hm (hunnamed m)
  | ok ms =>
    have hlist := mapM_ofToken_eq_ok_iff.mp hread
    have hset : (ofList <$> (.ok ms : Except SetError (List Modifier)) = .ok s) ↔ ofList ms = s :=
      ⟨Except.ok.inj, congrArg Except.ok⟩
    rw [hset]
    constructor
    · rintro rfl
      constructor
      · intro t ht
        have hsome : Modifier.ofToken? t ∈ ms.map some := hlist ▸ List.mem_map_of_mem ht
        obtain ⟨m, -, hm⟩ := List.mem_map.mp hsome
        exact ⟨m, Modifier.ofToken?_eq_some_iff.mp hm.symm⟩
      · intro m
        rw [has_ofList, decide_eq_true_iff, hmem hlist]
    · rintro ⟨-, hhas⟩
      refine ext fun m => ?_
      rw [Bool.eq_iff_iff, has_ofList, decide_eq_true_iff, hmem hlist, hhas]

theorem exists_ofTokens_iff :
    (∃ s, ofTokens tokens = .ok s) ↔ ∀ t ∈ tokens, ∃ m : Modifier, m.IsNamedBy t := by
  constructor
  · rintro ⟨s, hs⟩
    exact (ofTokens_eq_ok_iff.mp hs).1
  · intro hnamed
    cases hread : ofTokens tokens with
    | ok s => exact ⟨s, rfl⟩
    | error cause =>
      obtain ⟨token, ⟨known, rest, rfl, -, hunnamed⟩, -⟩ := ofTokens_eq_error_iff.mp hread
      obtain ⟨m, hm⟩ := hnamed token (by simp)
      exact absurd hm (hunnamed m)

end ModifierSet

end MailFilter
