import Mathlib
import MailFilter.Proofs.Text.Parts
import MailFilter.Proofs.Variable.Keywords

/-!
# The order of modifiers

Tokens are read into a set, so it does not matter in which order they are written, in which letter
case, or how often. A set shows which modifiers it enables, and what it does to a value is said by
the keywords alone: seven changes in one order, each of which is made once or not at all.

- `Modifier.IsKnown`: a token is a keyword.
- `ModifierSet.SameKeywords`: two lists of tokens name the same keywords.
- `ModifierSet.shown_injective`: sets that show the same are the same.
- `ModifierSet.changed`: the changes that keywords ask for, in canonical order.
- `ModifierSet.apply_eq_changed`: what a set does to a value.
- `ModifierSet.ofTokens_by_keywords`: what is made of two lists of tokens.
-/

namespace MailFilter

namespace Modifier

variable {token : Text} {m : Modifier}

/-- The keyword that a token is meant to be: in small letters, without one leading colon. -/
def keywordOf (token : Text) : Text :=
  token.untagged.lower

/-- A token is a keyword. -/
def IsKnown (token : Text) : Prop :=
  ∃ m ∈ all, keywordOf token = m.keyword

instance (token : Text) : Decidable (IsKnown token) :=
  inferInstanceAs (Decidable (∃ m ∈ all, _))

theorem isNamedBy_iff : m.IsNamedBy token ↔ keywordOf token = m.keyword :=
  lower_eq_keyword_iff.symm

theorem isKnown_iff : IsKnown token ↔ ∃ m : Modifier, m.IsNamedBy token := by
  simp only [IsKnown, isNamedBy_iff, mem_all, true_and]

/-- No keyword is empty or holds a comma. -/
theorem keyword_plain (m : Modifier) : m.keyword ≠ [] ∧ .char ',' ∉ m.keyword := by
  cases m <;> decide

end Modifier

namespace ModifierSet

open Modifier

variable {s s' : ModifierSet} {tokens first second : List Text} {token : Text}

/-- The keywords that tokens are meant to be. -/
def keywordsOf (tokens : List Text) : List Text :=
  tokens.map keywordOf

/-- Two lists of tokens name the same keywords, in whatever order and however often. -/
def SameKeywords (first second : List Text) : Prop :=
  ∀ word, word ∈ keywordsOf first ↔ word ∈ keywordsOf second

/-! ## Sets and keywords -/

/-- A set that was read enables exactly the modifiers whose keywords were written. -/
theorem has_iff_of_ofTokens (h : ofTokens tokens = .ok s) (m : Modifier) :
    s.has m = true ↔ m.keyword ∈ keywordsOf tokens := by
  rw [(ofTokens_eq_ok_iff.mp h).2, keywordsOf, List.mem_map]
  simp only [isNamedBy_iff]

/-- Known tokens make the same set if and only if they name the same keywords. -/
theorem eq_iff_sameKeywords (hs : ofTokens first = .ok s) (hs' : ofTokens second = .ok s') :
    s = s' ↔ SameKeywords first second := by
  constructor
  · rintro rfl
    -- a keyword that was written is that of a modifier, and the set enables it
    have hwritten {tokens other : List Text} (h : ofTokens tokens = .ok s)
        (hother : ofTokens other = .ok s) (word : Text) (hword : word ∈ keywordsOf tokens) :
        word ∈ keywordsOf other := by
      obtain ⟨t, ht, rfl⟩ := List.mem_map.mp hword
      obtain ⟨m, hm⟩ := (ofTokens_eq_ok_iff.mp h).1 t ht
      rw [isNamedBy_iff.mp hm, ← has_iff_of_ofTokens h m] at hword
      rw [isNamedBy_iff.mp hm]
      exact (has_iff_of_ofTokens hother m).mp hword
    exact fun word => ⟨hwritten hs hs' word, hwritten hs' hs word⟩
  · intro hsame
    refine ext fun m => ?_
    rw [Bool.eq_iff_iff, has_iff_of_ofTokens hs, has_iff_of_ofTokens hs', hsame]

/-- Sets that show the same are the same. -/
theorem shown_injective : Function.Injective shown := by
  intro s s' h
  have hplain (s : ModifierSet) : ∀ t ∈ s.enabled.map keyword, t ≠ [] ∧ .char ',' ∉ t := by
    intro t ht
    obtain ⟨m, -, rfl⟩ := List.mem_map.mp ht
    exact m.keyword_plain
  have hgap : CodePoint.char ',' ∉ (" " : Text) := by decide
  have hjoin := List.append_cancel_left (List.append_cancel_right h)
  -- the keywords are found again between the separators
  have hwords := Text.eq_of_join_eq hgap (hplain s) (hplain s') hjoin
  exact eq_of_enabled_eq (List.map_injective_iff.mpr keyword_injective hwords)

/-! ## What a set does -/

/-- The changes that keywords ask for, one after another. Form encoding alone may fail. -/
def changed (words : List Text) (v : Text) : Except Fault Text :=
  let v := if words.contains ("quotewildcard" : Text) then quoteGlob v else v
  let v := if words.contains ("lower" : Text) then v.lower else v
  let v := if words.contains ("upper" : Text) then v.upper else v
  let v := if words.contains ("lowerfirst" : Text) then v.lowerFirst else v
  let v := if words.contains ("upperfirst" : Text) then v.upperFirst else v
  let encoded := if words.contains ("encodeurl" : Text) then v.formEncode? else some v
  encoded.elim (.error .unencodable) fun v =>
    .ok (if words.contains ("length" : Text) then Text.ofNat v.length else v)

/-- Texts without an encoding make what follows fail. -/
theorem elim_unencodable_bind (encoded : Option Text) (f : Text → Except Fault Text) :
    (encoded.elim (.error .unencodable) .ok >>= f) = encoded.elim (.error .unencodable) f := by
  cases encoded <;> rfl

/-- A set that enables the modifiers of some keywords makes the changes that these ask for. -/
theorem apply_eq_changed {words : List Text} (h : ∀ m, s.has m = true ↔ m.keyword ∈ words)
    (v : Text) : s.apply v = changed words v := by
  have hhas (m : Modifier) : s.has m = words.contains m.keyword := by
    rw [Bool.eq_iff_iff, h, List.contains_iff_mem]
  have hstep (m : Modifier) (t : Text) : (if s.has m = true then m.apply t else pure t) =
      if words.contains m.keyword = true then m.apply t else .ok t := by
    rw [hhas]
    rfl
  have hencode (asked : Bool) (t : Text) :
      (if asked = true then (t.formEncode?).elim (.error .unencodable) .ok else .ok t :
          Except Fault Text) =
        (if asked = true then t.formEncode? else some t).elim (.error .unencodable) .ok := by
    cases asked <;> rfl
  have hok (t : Text) (f : Text → Except Fault Text) : (.ok t >>= f) = f t := rfl
  rw [ModifierSet.apply, enabled, List.foldlM_filter]
  -- the steps in canonical order, one conditional for each modifier
  simp only [Modifier.all, List.foldlM_cons, List.foldlM_nil, hstep]
  simp only [Modifier.apply, ← apply_ite Except.ok, hok, hencode, elim_unencodable_bind]
  rfl

/-! ## Lists of tokens -/

/-- The first token that is no keyword is what a list of tokens is refused for. -/
theorem ofTokens_of_find? (h : tokens.find? (fun t => ¬IsKnown t) = some token) :
    ofTokens tokens = .error (.unknownModifier token) := by
  obtain ⟨hunknown, known, rest, hsplit, hknown⟩ := List.find?_eq_some_iff_append.mp h
  have hnamed : ∀ t ∈ known, ∃ m : Modifier, m.IsNamedBy t := by
    intro t ht
    have hnot := hknown t ht
    exact isKnown_iff.mp (by simpa using hnot)
  have hunnamed : ∀ m : Modifier, ¬m.IsNamedBy token := by
    intro m hm
    exact of_decide_eq_true hunknown (isKnown_iff.mpr ⟨m, hm⟩)
  exact ofTokens_eq_error_iff.mpr ⟨token, ⟨known, rest, hsplit, hnamed, hunnamed⟩, rfl⟩

/-- Two lists of keywords, each in any letters and behind a colon or not, make sets. These are the
same, and show the same, if and only if the lists name the same keywords; then they do the same to
every value, namely the changes that the keywords ask for, once each and in canonical order. A list
with another token is refused for the first such token as it was written. -/
theorem ofTokens_by_keywords (first second : List Text) :
    ((∀ t ∈ first, IsKnown t) → (∀ t ∈ second, IsKnown t) →
      ∃ s s', ofTokens first = .ok s ∧ ofTokens second = .ok s' ∧
        (s = s' ↔ SameKeywords first second) ∧ (s.shown = s'.shown ↔ SameKeywords first second) ∧
        (∀ v, s.apply v = changed (keywordsOf first) v) ∧
        (SameKeywords first second → ∀ v, s'.apply v = s.apply v)) ∧
    ∀ token, first.find? (fun t => ¬IsKnown t) = some token →
      ∃ e, ofTokens first = .error e ∧ e.message = "Invalid variable modifier: " ++ token ∧
        e.details = ([("token", .text token)] : Details) := by
  constructor
  · intro hfirst hsecond
    obtain ⟨s, hs⟩ := exists_ofTokens_iff.mpr fun t ht => isKnown_iff.mp (hfirst t ht)
    obtain ⟨s', hs'⟩ := exists_ofTokens_iff.mpr fun t ht => isKnown_iff.mp (hsecond t ht)
    have hsame := eq_iff_sameKeywords hs hs'
    refine ⟨s, s', hs, hs', hsame, shown_injective.eq_iff.trans hsame,
      apply_eq_changed (has_iff_of_ofTokens hs), fun h v => ?_⟩
    rw [hsame.mpr h]
  · intro token htoken
    exact ⟨_, ofTokens_of_find? htoken, rfl, rfl⟩

/-- Encoding is written twice and in front of quoting, and two colons are one too many. -/
theorem ofTokens_by_keywords_repeated :
    let first : List Text := [":encodeurl", "QuoteWildcard", ":ENCODEURL"]
    let second : List Text := [":quotewildcard", "encodeUrl"]
    let unknown : List Text := [":lower", "::upper", "bogus"]
    (∀ t ∈ first, IsKnown t) ∧ (∀ t ∈ second, IsKnown t) ∧ SameKeywords first second ∧
      (∃ s, ofTokens first = .ok s ∧ ofTokens second = .ok s ∧ s.apply "a*b" = .ok "a%5C*b") ∧
      unknown.find? (fun t => ¬IsKnown t) = some ("::upper" : Text) ∧
      ∃ e, ofTokens unknown = .error e ∧
        e.message = ("Invalid variable modifier: ::upper" : Text) := by
  intro first second unknown
  have hfirst : ∀ t ∈ first, IsKnown t := by decide +kernel
  have hsecond : ∀ t ∈ second, IsKnown t := by decide +kernel
  have hunknown : unknown.find? (fun t => ¬IsKnown t) = some ("::upper" : Text) := by decide +kernel
  have hwords : keywordsOf first = (["encodeurl", "quotewildcard", "encodeurl"] : List Text) ∧
      keywordsOf second = (["quotewildcard", "encodeurl"] : List Text) := by decide +kernel
  have hsame : SameKeywords first second := by
    intro word
    rw [hwords.1, hwords.2]
    simp only [List.mem_cons, List.not_mem_nil, or_false]
    tauto
  obtain ⟨s, s', hs, hs', heq, -, happly, -⟩ := (ofTokens_by_keywords first second).1 hfirst hsecond
  obtain rfl := heq.mpr hsame
  obtain ⟨e, he, hmessage, -⟩ := (ofTokens_by_keywords unknown []).2 _ hunknown
  refine ⟨hfirst, hsecond, hsame, ⟨s, hs, hs', ?_⟩, hunknown, e, he, hmessage⟩
  rw [happly, hwords.1]
  decide +kernel

end ModifierSet

end MailFilter
