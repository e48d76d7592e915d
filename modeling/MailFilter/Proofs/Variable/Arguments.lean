import MailFilter.Proofs.Text.Parts
import MailFilter.Proofs.Variable.Keywords
import MailFilter.Variable.SetCommand

/-!
# How `set` commands are written

The arguments of a `set` command are keywords of modifiers, each behind a colon, then a name that has
no colon in front, then any value. Nothing else is read, and what is read can be written down again
without loss. What cannot be read is refused for the number of its arguments before the modifiers are
looked at.

- `Modifier.IsTaggedBy`: a keyword behind a colon.
- `SetCommand.IsWritten`: the arguments that a command is read from.
- `SetCommand.ofArguments_eq_ok_iff`, `SetCommand.ofArguments_eq_error_iff`: reading arguments.
- `SetCommand.ofArguments_exact`: what is read, from which arguments, and why others are refused.
-/

namespace MailFilter

/-- A token is the keyword of a modifier in ASCII letters of any case, behind a colon. -/
def Modifier.IsTaggedBy (m : Modifier) (token : Text) : Prop :=
  ∃ word : Text, token = .char ':' :: word ∧ word.asciiFold = m.keyword

namespace SetCommand

variable {arguments : List Text} {c : SetCommand} {e : SetError}

theorem isTag_iff {t : Text} : isTag t = true ↔ ∃ word, t = .char ':' :: word := by
  unfold isTag
  split
  · next word => exact ⟨fun _ => ⟨word, rfl⟩, fun _ => rfl⟩
  · next hplain => exact ⟨nofun, fun ⟨word, hword⟩ => absurd hword (hplain word)⟩

/-- Behind a colon, naming a modifier is being its keyword. -/
theorem isTaggedBy_iff {m : Modifier} {token : Text} :
    m.IsTaggedBy token ↔ isTag token = true ∧ m.IsNamedBy token := by
  rw [isTag_iff]
  constructor
  · rintro ⟨word, rfl, hword⟩
    exact ⟨⟨word, rfl⟩, hword⟩
  · rintro ⟨⟨word, rfl⟩, hword⟩
    exact ⟨word, rfl, hword⟩

/-- The arguments that a command is read from: its modifiers behind colons, its name, which has none
in front, and its value. -/
structure IsWritten (c : SetCommand) (arguments : List Text) : Prop where
  arguments : arguments = c.tokens ++ [c.name, c.value]
  tokens : ∀ t ∈ c.tokens, ∃ m : Modifier, m.IsTaggedBy t
  name : isTag c.name = false
  /-- The modifiers are exactly those that tokens name. -/
  modifiers : ∀ m, c.modifiers.has m = true ↔ ∃ t ∈ c.tokens, m.IsTaggedBy t

/-! ## Tags, a name and a value -/

/-- Arguments fall into leading tags and the rest in one way only. -/
theorem split_eq_iff {tokens plain : List Text} (h : ∀ t ∈ plain.head?, isTag t = false) :
    arguments.takeWhile isTag = tokens ∧ arguments.dropWhile isTag = plain ↔
      arguments = tokens ++ plain ∧ ∀ t ∈ tokens, isTag t = true := by
  constructor
  · rintro ⟨rfl, rfl⟩
    exact ⟨List.takeWhile_append_dropWhile.symm, fun t ht => List.mem_takeWhile_imp ht⟩
  · rintro ⟨rfl, htokens⟩
    exact Text.takeWhile_dropWhile_append isTag plain htokens h

/-- What is left behind the leading tags does not begin with one. -/
theorem isTag_head?_dropWhile :
    ∀ t ∈ (arguments.dropWhile isTag).head?, isTag t = false := by
  intro t ht
  have hstops := List.head?_dropWhile_not isTag arguments
  rw [Option.mem_def.mp ht] at hstops
  simpa using hstops

theorem ofArguments_of_pair {name value : Text} (h : arguments.dropWhile isTag = [name, value]) :
    ofArguments arguments =
      match ModifierSet.ofTokens (arguments.takeWhile isTag) with
      | .ok modifiers => .ok ⟨name, value, arguments.takeWhile isTag, modifiers⟩
      | .error e => .error e := by
  rw [ofArguments, h]
  dsimp only
  cases ModifierSet.ofTokens (arguments.takeWhile isTag) <;> rfl

theorem ofArguments_of_few (h : (arguments.dropWhile isTag).length < 2) :
    ofArguments arguments = .error (.tooFew arguments) := by
  unfold ofArguments
  split
  · next hplain =>
    rw [hplain] at h
    exact absurd h (Nat.lt_irrefl 2)
  · next hplain =>
    rw [hplain] at h
    simp only [List.length_cons] at h
    omega
  · rfl

theorem ofArguments_of_many (h : 2 < (arguments.dropWhile isTag).length) :
    ofArguments arguments = .error (.tooMany arguments) := by
  unfold ofArguments
  split
  · next hplain =>
    rw [hplain] at h
    exact absurd h (Nat.lt_irrefl 2)
  · rfl
  · next hpair hmany =>
    -- a list of more than two texts is of the shape that was passed over
    match hplain : arguments.dropWhile isTag with
    | [] | [_] | [_, _] =>
      rw [hplain] at h
      simp only [List.length_cons, List.length_nil] at h
      omega
    | a :: b :: c :: rest => exact absurd hplain (hmany a b c rest)

/-- Arguments that are no name and value behind tags have too few or too many texts there. -/
theorem pair_or_length_ne (arguments : List Text) :
    (∃ name value, arguments.dropWhile isTag = [name, value]) ∨
      (arguments.dropWhile isTag).length < 2 ∨ 2 < (arguments.dropWhile isTag).length := by
  -- two texts are a name and a value
  rcases Nat.lt_trichotomy (arguments.dropWhile isTag).length 2 with h | h | h
  · exact .inr (.inl h)
  · exact .inl (List.length_eq_two.mp h)
  · exact .inr (.inr h)

/-! ## What is read and what is refused -/

theorem ofArguments_eq_ok_iff_ofTokens :
    ofArguments arguments = .ok c ↔
      arguments = c.tokens ++ [c.name, c.value] ∧ (∀ t ∈ c.tokens, isTag t = true) ∧
        isTag c.name = false ∧ ModifierSet.ofTokens c.tokens = .ok c.modifiers := by
  constructor
  · intro h
    rcases pair_or_length_ne arguments with ⟨name, value, hpair⟩ | hfew | hmany
    · have hname : isTag name = false := isTag_head?_dropWhile name (by rw [hpair]; rfl)
      -- the name is what ends the tags, so the arguments fall apart in this way only
      obtain ⟨hsplit, htags⟩ := (split_eq_iff (by simpa using hname)).mp ⟨rfl, hpair⟩
      rw [ofArguments_of_pair hpair] at h
      split at h
      · next modifiers hmodifiers =>
        cases h
        exact ⟨hsplit, htags, hname, hmodifiers⟩
      · cases h
    · rw [ofArguments_of_few hfew] at h
      cases h
    · rw [ofArguments_of_many hmany] at h
      cases h
  · rintro ⟨hsplit, htags, hname, hmodifiers⟩
    have hplain : ∀ t ∈ [c.name, c.value].head?, isTag t = false := by simpa using hname
    obtain ⟨htake, hpair⟩ := (split_eq_iff hplain).mpr ⟨hsplit, htags⟩
    rw [ofArguments_of_pair hpair, htake, hmodifiers]

/-- A command is read from the arguments in which it is written. -/
theorem ofArguments_eq_ok_iff : ofArguments arguments = .ok c ↔ c.IsWritten arguments := by
  rw [ofArguments_eq_ok_iff_ofTokens, ModifierSet.ofTokens_eq_ok_iff]
  constructor
  · rintro ⟨hsplit, htags, hname, hnamed, hhas⟩
    refine ⟨hsplit, fun t ht => ?_, hname, fun m => ?_⟩
    · obtain ⟨m, hm⟩ := hnamed t ht
      exact ⟨m, isTaggedBy_iff.mpr ⟨htags t ht, hm⟩⟩
    · rw [hhas]
      constructor
      · rintro ⟨t, ht, hm⟩
        exact ⟨t, ht, isTaggedBy_iff.mpr ⟨htags t ht, hm⟩⟩
      · rintro ⟨t, ht, hm⟩
        exact ⟨t, ht, (isTaggedBy_iff.mp hm).2⟩
  · rintro ⟨hsplit, htokens, hname, hhas⟩
    have htags : ∀ t ∈ c.tokens, isTag t = true := fun t ht =>
      have ⟨_, hm⟩ := htokens t ht
      (isTaggedBy_iff.mp hm).1
    refine ⟨hsplit, htags, hname, fun t ht => ?_, fun m => ?_⟩
    · obtain ⟨m, hm⟩ := htokens t ht
      exact ⟨m, (isTaggedBy_iff.mp hm).2⟩
    · rw [hhas]
      constructor
      · rintro ⟨t, ht, hm⟩
        exact ⟨t, ht, (isTaggedBy_iff.mp hm).2⟩
      · rintro ⟨t, ht, hm⟩
        exact ⟨t, ht, isTaggedBy_iff.mpr ⟨htags t ht, hm⟩⟩

/-- Arguments are refused for their number first, and then for the first unknown modifier. -/
theorem ofArguments_eq_error_iff :
    ofArguments arguments = .error e ↔
      ((arguments.dropWhile isTag).length < 2 ∧ e = .tooFew arguments) ∨
      (2 < (arguments.dropWhile isTag).length ∧ e = .tooMany arguments) ∨
      ((arguments.dropWhile isTag).length = 2 ∧ ∃ token,
        ModifierSet.FirstUnknown (arguments.takeWhile isTag) token ∧ e = .unknownModifier token) := by
  rcases pair_or_length_ne arguments with ⟨name, value, hpair⟩ | hfew | hmany
  · have hlength : (arguments.dropWhile isTag).length = 2 := by rw [hpair]; rfl
    rw [ofArguments_of_pair hpair, ← ModifierSet.ofTokens_eq_error_iff, hlength]
    cases ModifierSet.ofTokens (arguments.takeWhile isTag) <;> simp
  · rw [ofArguments_of_few hfew]
    have hnot : ¬2 < (arguments.dropWhile isTag).length ∧ (arguments.dropWhile isTag).length ≠ 2 :=
      ⟨by omega, by omega⟩
    simp [hfew, hnot, eq_comm]
  · rw [ofArguments_of_many hmany]
    have hnot : ¬(arguments.dropWhile isTag).length < 2 ∧ (arguments.dropWhile isTag).length ≠ 2 :=
      ⟨by omega, by omega⟩
    simp [hmany, hnot, eq_comm]

/-- Arguments are read if and only if they are keywords of modifiers, in letters of any case and each
behind a colon, then a name without a colon in front, then any value. The command that is read has
these arguments and exactly the modifiers that are named, and is read from its own arguments again.
All other arguments are refused: for their number behind the leading run of colons if it is not two,
together with the whole list, and otherwise for the first token that is no keyword. -/
theorem ofArguments_exact (arguments : List Text) :
    ((∃ c, ofArguments arguments = .ok c) ↔
      ∃ tokens name value, arguments = tokens ++ [name, value] ∧
        (∀ t ∈ tokens, ∃ m : Modifier, m.IsTaggedBy t) ∧ isTag name = false) ∧
    (∀ c, ofArguments arguments = .ok c ↔ c.IsWritten arguments) ∧
    (∀ c, ofArguments arguments = .ok c →
      c.arguments = arguments ∧ ofArguments c.arguments = .ok c) ∧
    ∀ e, ofArguments arguments = .error e ↔
      ((arguments.dropWhile isTag).length < 2 ∧ e = .tooFew arguments) ∨
      (2 < (arguments.dropWhile isTag).length ∧ e = .tooMany arguments) ∨
      ((arguments.dropWhile isTag).length = 2 ∧ ∃ token,
        ModifierSet.FirstUnknown (arguments.takeWhile isTag) token ∧
          e = .unknownModifier token) := by
  refine ⟨⟨?_, ?_⟩, fun c => ofArguments_eq_ok_iff, ?_, fun e => ofArguments_eq_error_iff⟩
  · rintro ⟨c, hc⟩
    have h := ofArguments_eq_ok_iff.mp hc
    exact ⟨c.tokens, c.name, c.value, h.arguments, h.tokens, h.name⟩
  · rintro ⟨tokens, name, value, hsplit, htokens, hname⟩
    -- tokens that are tagged by keywords are tags, and known
    have hboth : ∀ t ∈ tokens, isTag t = true ∧ ∃ m : Modifier, m.IsNamedBy t := fun t ht =>
      have ⟨m, hm⟩ := htokens t ht
      ⟨(isTaggedBy_iff.mp hm).1, m, (isTaggedBy_iff.mp hm).2⟩
    obtain ⟨modifiers, hmodifiers⟩ :=
      ModifierSet.exists_ofTokens_iff.mpr fun t ht => (hboth t ht).2
    exact ⟨⟨name, value, tokens, modifiers⟩, ofArguments_eq_ok_iff_ofTokens.mpr
      ⟨hsplit, fun t ht => (hboth t ht).1, hname, hmodifiers⟩⟩
  · intro c hc
    have hsame := arguments_ofArguments hc
    exact ⟨hsame, hsame ▸ hc⟩

/-- A colon in front of the value is nothing special. -/
example :
    let read := (ofArguments [":upperFIRST", ":lower", "name", ":upper"]).toOption
    read.map SetCommand.name = some "name" ∧ read.map SetCommand.value = some ":upper" ∧
      read.map (·.modifiers.enabled) = some [.lower, .upperFirst] := by
  decide

end SetCommand

end MailFilter
