import Mathlib.Data.List.TakeWhile
import Mathlib.Tactic.SplitIfs
import MailFilter.Message.AddressList

/-!
# Readers of address lists move on

What a reader of address lists leaves is never longer than what it was given. An entry of a list
takes one code point at least, for which a phrase that ends has to be told from one that does not
begin.

- `readDomain_cons`, `readLocal_cons`, `readAddress_eq`, `readEntry_succ`, `readGroup_succ`: one
  round of a reader, said with `addPart`, `readPart`, `entryBody` and `afterComma`.
- `length_readEntry_le`, `length_readGroup_le`: nothing is added.
- `head_of_afterFill`, `head_of_readPhrase`: where fill and phrases end.
- `length_readEntry_lt`: something is read of an entry.
-/

namespace MailFilter

namespace AddressList

variable {fuel : Nat} {t left : Text} {c : CodePoint}

theorem length_dropWhile_le (p : CodePoint → Bool) (t : Text) :
    (t.dropWhile p).length ≤ t.length :=
  (List.dropWhile_suffix p).length_le

/-- Dropping a run that begins at once drops its first code point. -/
theorem length_dropWhile_cons_le {p : CodePoint → Bool} (rest : Text) (hc : p c = true) :
    ((c :: rest).dropWhile p).length ≤ rest.length := by
  rw [List.dropWhile_cons_of_pos hc]
  exact length_dropWhile_le p rest

/-- A match on the first code point that has failed, said of the first code point itself. -/
theorem head?_ne_some (h : ∀ rest, t = c :: rest → False) : t.head? ≠ some c := fun hhead => by
  obtain ⟨rest, hrest⟩ := List.head?_eq_some_iff.mp hhead
  exact h rest hrest

/-! ## Comments, quotations and fill -/

/-- A comment without an end takes the text up to its end, and no more. -/
theorem length_afterComment_le (depth : Nat) (t : Text) :
    (afterComment depth t).length ≤ t.length := by
  fun_induction afterComment depth t <;> grind

theorem length_readDelimited_le (last : CodePoint) (t : Text) :
    (readDelimited last t).2.length ≤ t.length := by
  fun_induction readDelimited last t <;> grind

@[simp] theorem skipFill_nil (fuel : Nat) : skipFill fuel [] = ([], []) := by
  cases fuel <;> rfl

/-- Behind blanks and comments stands a part of the text. -/
theorem length_skipFill_le (fuel : Nat) (t : Text) : (skipFill fuel t).2.length ≤ t.length := by
  fun_induction skipFill fuel t <;> grind [length_afterComment_le]

theorem length_afterFill_le (t : Text) : (afterFill t).length ≤ t.length :=
  length_skipFill_le ..

/-- With a bound that is not below the length of the text, fill stops only where it ends. -/
theorem head_of_skipFill {blanks rest : Text} (h : skipFill fuel t = (blanks, c :: rest))
    (hfuel : t.length ≤ fuel) : isFold c = false ∧ c ≠ .char '(' := by
  fun_induction skipFill fuel t generalizing blanks with
  -- the bound runs out only when nothing is left to stop at
  | case1 t =>
    cases h
    simp at hfuel
  | case2 fuel => cases h
  | case3 fuel d rest hfold blanks after heq ih =>
    cases h
    exact ih heq (by grind)
  | case4 fuel rest hfold ih => exact ih h (by grind [length_afterComment_le])
  | case5 fuel d rest hfold hopen =>
    cases h
    exact ⟨Bool.not_eq_true _ ▸ hfold, hopen⟩

/-- No fill stands where fill ends. -/
theorem head_of_afterFill {rest : Text} (h : afterFill t = c :: rest) :
    isFold c = false ∧ c ≠ .char '(' :=
  head_of_skipFill (Prod.ext rfl h) (Nat.le_refl _)

/-- What begins with neither a blank nor a comment begins without fill. -/
theorem afterFill_of_head (rest : Text) (hfold : isFold c = false) (hopen : c ≠ .char '(') :
    afterFill (c :: rest) = c :: rest := by
  simp [afterFill, skipFill, hfold, hopen]

/-! ## Phrases -/

@[simp] theorem readPhrase_nil (fuel : Nat) : readPhrase fuel [] = ([], []) := by
  cases fuel <;> rfl

/-- Words, comments and blanks are all read off the front. -/
theorem length_readPhrase_le (fuel : Nat) (t : Text) :
    (readPhrase fuel t).2.length ≤ t.length := by
  fun_induction readPhrase fuel t <;>
    grind [length_afterComment_le, length_readDelimited_le, length_dropWhile_le]

/-- Every word of a phrase has a code point at least. -/
theorem length_readPhrase_lt {words : List Text} (h : readPhrase fuel t = (words, left))
    (hne : words ≠ []) : left.length < t.length := by
  fun_induction readPhrase fuel t generalizing words with
  | case1 t =>
    cases h
    contradiction
  | case2 fuel =>
    cases h
    contradiction
  -- behind a blank or a comment the word is still to come
  | case3 fuel d rest hfold ih => exact (ih h hne).trans (Nat.lt_succ_self _)
  | case4 fuel rest word after hword words left hwords hfold ih =>
    cases h
    have hafter := length_readDelimited_le (.char '"') rest
    have hleft := length_readPhrase_le fuel after
    rw [hword] at hafter
    rw [hwords] at hleft
    exact Nat.lt_succ_of_le (hleft.trans hafter)
  | case5 fuel rest hfold hquote ih =>
    exact (ih h hne).trans_le ((length_afterComment_le 1 rest).trans (Nat.le_succ _))
  -- no word at all: a phrase that ends where it would begin
  | case6 fuel d rest hfold hquote hopen hend =>
    cases h
    contradiction
  | case7 fuel d rest hfold hquote hopen hend word words after hwords =>
    cases h
    have hdropped := length_dropWhile_cons_le (p := (!endsWord ·)) rest (by simpa using hend)
    have hleft := length_readPhrase_le fuel ((d :: rest).dropWhile (!endsWord ·))
    rw [hwords] at hleft
    exact Nat.lt_succ_of_le (hleft.trans hdropped)

/-- A phrase ends at a mark other than a point, a quote or an opening parenthesis. -/
theorem head_of_readPhrase {words : List Text} {rest : Text}
    (h : readPhrase fuel t = (words, c :: rest)) (hfuel : t.length ≤ fuel) :
    isFold c = false ∧ c ≠ .char '(' ∧ c ≠ .char '"' ∧ endsWord c = true := by
  fun_induction readPhrase fuel t generalizing words with
  -- a bound of the length of the text lasts up to the mark at which the phrase ends
  | case1 t =>
    cases h
    simp at hfuel
  | case2 fuel => cases h
  | case3 fuel d rest hfold ih => exact ih h (by grind)
  | case4 fuel rest word after hword words left hwords hfold ih =>
    cases h
    have hafter := length_readDelimited_le (.char '"') rest
    rw [hword] at hafter
    exact ih hwords (by grind)
  | case5 fuel rest hfold hquote ih => exact ih h (by grind [length_afterComment_le])
  | case6 fuel d rest hfold hquote hopen hend =>
    cases h
    exact ⟨Bool.not_eq_true _ ▸ hfold, hopen, hquote, hend⟩
  | case7 fuel d rest hfold hquote hopen hend word words after hwords =>
    rename_i ih
    cases h
    have hdropped := length_dropWhile_cons_le (p := (!endsWord ·)) rest (by simpa using hend)
    exact ih hwords (by grind)

/-- A mark that ends a phrase at once leaves all of the text. -/
theorem readPhrase_of_endsWord (rest : Text) (hfold : isFold c = false) (hopen : c ≠ .char '(')
    (hquote : c ≠ .char '"') (hend : endsWord c = true) :
    readPhrase (fuel + 1) (c :: rest) = ([], c :: rest) := by
  simp [readPhrase, hfold, hopen, hquote, hend]

/-- Apart from blanks, only a mark with a meaning of its own ends a word. -/
theorem isSpecial_of_endsWord (hend : endsWord c = true) (hfold : isFold c = false) :
    isSpecial c = true := by
  simp only [endsWord, endsAtom, hfold, Bool.or_false, Bool.and_eq_true] at hend
  exact hend.1

/-! ## Addresses -/

/-- A part of a domain before what is read behind it. -/
def addPart (part : Text) (r : Text × Text) : Text × Text :=
  if r.2.head? = some (.char '@') then ([], r.2) else (part ++ r.1, r.2)

@[simp] theorem addPart_snd (part : Text) (r : Text × Text) : (addPart part r).2 = r.2 := by
  unfold addPart
  split <;> rfl

@[simp] theorem readDomain_nil (fuel : Nat) : readDomain fuel [] = ([], []) := by
  cases fuel <;> rfl

/-- One round of reading a domain. -/
theorem readDomain_cons (fuel : Nat) (c : CodePoint) (rest : Text) :
    readDomain (fuel + 1) (c :: rest) =
      if isSpace c then readDomain fuel rest
      else if c = .char '(' then readDomain fuel (afterComment 1 rest)
      else if c = .char '[' then
        addPart ([.char '['] ++ (readDelimited (.char ']') rest).1 ++ [.char ']'])
          (readDomain fuel (readDelimited (.char ']') rest).2)
      else if c = .char '.' then addPart [c] (readDomain fuel rest)
      else if endsAtom c then ([], c :: rest)
      else addPart ((c :: rest).takeWhile (!endsAtom ·))
        (readDomain fuel ((c :: rest).dropWhile (!endsAtom ·))) :=
  rfl

/-- A domain is read off the front, with the comments and literals in it. -/
theorem length_readDomain_le (fuel : Nat) (t : Text) :
    (readDomain fuel t).2.length ≤ t.length := by
  fun_induction readDomain fuel t <;>
    grind [length_afterComment_le, length_readDelimited_le, length_dropWhile_le]

/-- Reads a quotation or an atom that begins with a code point. -/
def readPart (c : CodePoint) (rest : Text) : Text × Text :=
  if c = .char '"' then
    ([.char '"'] ++ requote (readDelimited (.char '"') rest).1 ++ [.char '"'],
      (readDelimited (.char '"') rest).2)
  else ((c :: rest).takeWhile (!endsAtom ·), (c :: rest).dropWhile (!endsAtom ·))

/-- A part is one code point long at least, the one that it begins with. -/
theorem length_readPart_le (rest : Text) (hc : (c ≠ .char '"' && endsAtom c) = false) :
    (readPart c rest).2.length ≤ rest.length := by
  unfold readPart
  split_ifs with hquote
  · exact length_readDelimited_le ..
  · exact length_dropWhile_cons_le (p := (!endsAtom ·)) rest (by simpa [hquote] using hc)

@[simp] theorem readLocal_nil (fuel : Nat) (parts : List Text) :
    readLocal fuel parts [] = (parts, []) := by
  cases fuel <;> rfl

/-- One round of reading the parts in front of an at sign. -/
theorem readLocal_cons (fuel : Nat) (parts : List Text) (c : CodePoint) (rest : Text) :
    readLocal (fuel + 1) parts (c :: rest) =
      if c = .char '.' then readLocal fuel ([c] :: dropBlankPart parts) (afterFill rest)
      else if c ≠ .char '"' && endsAtom c then (dropBlankPart parts, c :: rest)
      else
        let part := readPart c rest
        let fill := skipFill part.2.length part.2
        readLocal fuel (if fill.1.isEmpty then part.1 :: parts else fill.1 :: part.1 :: parts)
          fill.2 := by
  rw [readLocal]
  rfl

/-- Nothing is added in front of an at sign. -/
theorem length_readLocal_le (fuel : Nat) (parts : List Text) (t : Text) :
    (readLocal fuel parts t).2.length ≤ t.length := by
  fun_induction readLocal fuel parts t <;>
    grind [length_afterFill_le, length_skipFill_le, length_readDelimited_le, length_dropWhile_le]

/-- Something is read of what begins as a word or a quotation. -/
theorem length_readLocal_lt {parts : List Text} (rest : Text)
    (hword : endsWord c = true → c = .char '"') :
    (readLocal (fuel + 1) parts (c :: rest)).2.length < (c :: rest).length := by
  rw [readLocal_cons]
  -- a point, a mark at which reading would stop, or a part
  split_ifs with hpoint hend
  · exact Nat.lt_succ_of_le ((length_readLocal_le ..).trans (length_afterFill_le rest))
  · have hquote : c = .char '"' := hword (by simp_all [endsWord])
    simp [hquote] at hend
  · have hpart := length_readPart_le rest (Bool.not_eq_true _ ▸ hend)
    exact Nat.lt_succ_of_le
      ((length_readLocal_le ..).trans ((length_skipFill_le ..).trans hpart))

/-- An address is what stands in front of its at sign, and the domain behind it if there is one. -/
theorem readAddress_eq (t : Text) :
    readAddress t =
      let before := readLocal (t.length + 1) [] (afterFill t)
      if before.2.head? = some (.char '@') then
        let behind := afterFill before.2.tail
        let domain := readDomain (behind.length + 1) behind
        (if domain.1.isEmpty then [] else before.1.reverse.flatten ++ [.char '@'] ++ domain.1,
          domain.2)
      else (before.1.reverse.flatten, before.2) := by
  unfold readAddress
  generalize readLocal (t.length + 1) [] (afterFill t) = before
  obtain ⟨parts, rest⟩ := before
  dsimp only
  split
  · rfl
  · next h => rw [if_neg (head?_ne_some h)]

/-- An address is read off the front, whether or not a domain makes it empty. -/
theorem length_readAddress_le (t : Text) : (readAddress t).2.length ≤ t.length := by
  fun_cases readAddress t <;>
    grind [length_afterFill_le, length_readLocal_le, length_readDomain_le]

/-- Something is read of what begins as a word, a quotation or a domain. -/
theorem length_readAddress_lt (rest : Text) (hfold : isFold c = false) (hopen : c ≠ .char '(')
    (hword : endsWord c = true → c = .char '"' ∨ c = .char '@') :
    (readAddress (c :: rest)).2.length < (c :: rest).length := by
  rw [readAddress_eq, afterFill_of_head rest hfold hopen]
  have hbefore := length_readLocal_le ((c :: rest).length + 1) [] (c :: rest)
  dsimp only
  -- behind an at sign the domain may be empty, but the at sign itself has been read
  split
  · next hat =>
    obtain ⟨behind, hbehind⟩ := List.head?_eq_some_iff.mp hat
    rw [hbehind] at hbefore ⊢
    exact ((length_readDomain_le ..).trans (length_afterFill_le _)).trans_lt hbefore
  · next hat =>
    have hother : c ≠ .char '@' := by
      rintro rfl
      exact hat rfl
    exact length_readLocal_lt rest fun hend => (hword hend).resolve_right hother

@[simp] theorem readAngle_nil (fuel : Nat) (expectRoute : Bool) :
    readAngle fuel expectRoute [] = ([], []) := by
  cases fuel <;> rfl

/-- Nothing is added behind an angle bracket, nor by the route in front of an address. -/
theorem length_readAngle_le (fuel : Nat) (expectRoute : Bool) (t : Text) :
    (readAngle fuel expectRoute t).2.length ≤ t.length := by
  fun_induction readAngle fuel expectRoute t <;>
    grind [length_afterFill_le, length_readDomain_le, length_readAddress_le]

/-! ## Entries and groups -/

/-- What follows the comma behind an entry. -/
def afterComma (t : Text) : Text :=
  if (afterFill t).head? = some (.char ',') then (afterFill t).tail else afterFill t

/-- At most a comma and the fill in front of it are passed over. -/
theorem length_afterComma_le (t : Text) : (afterComma t).length ≤ t.length := by
  unfold afterComma
  split_ifs
  · exact (List.tail_suffix _).length_le.trans (length_afterFill_le t)
  · exact length_afterFill_le t

/-- What has been read of an entry, without the comma behind it. -/
def cutComma (entry : List Text × Text) : List Text × Text :=
  match afterFill entry.2 with
  | .char ',' :: after => (entry.1, after)
  | after => (entry.1, after)

/-- Only the text behind an entry depends on whether a comma follows. -/
theorem cutComma_eq (entry : List Text × Text) :
    cutComma entry = (entry.1, afterComma entry.2) := by
  unfold cutComma afterComma
  split
  · next rest h =>
    rw [h]
    rfl
  · next h => rw [if_neg (head?_ne_some h)]

/-- Reads the addresses of an entry that begins without fill. -/
def entryBody (fuel : Nat) (start : Text) : List Text × Text :=
  let (phrase, rest) := readPhrase (start.length + 1) start
  match afterFill rest with
  | [] => (phrase.take 1, [])
  | c :: rest =>
    if c = .char '.' || c = .char '@' then
      let (address, after) := readAddress start
      ([address], after)
    else if c = .char ':' then readGroup fuel rest
    else if c = .char '<' then
      let rest := afterFill rest
      let (address, after) := readAngle (2 * rest.length + 2) false rest
      ([address], after)
    else if phrase.isEmpty then ([], if isSpecial c then rest else c :: rest)
    else (phrase.take 1, c :: rest)

@[simp] theorem readEntry_nil (fuel : Nat) : readEntry fuel [] = ([], []) := by
  cases fuel <;> rfl

/-- An entry is its body without the fill in front of it, and the comma behind it. -/
theorem readEntry_succ (fuel : Nat) (t : Text) :
    readEntry (fuel + 1) t =
      ((entryBody fuel (afterFill t)).1, afterComma (entryBody fuel (afterFill t)).2) := by
  rw [readEntry]
  exact cutComma_eq (entryBody fuel (afterFill t))

/-- A group ends at a semicolon; else it is an entry and the other entries. -/
theorem readGroup_succ (fuel : Nat) (hne : t ≠ []) :
    readGroup (fuel + 1) t =
      if (afterFill t).head? = some (.char ';') then ([], (afterFill t).tail)
      else
        let entry := readEntry fuel (afterFill t)
        let others := readGroup fuel entry.2
        (entry.1 ++ others.1, others.2) := by
  rw [readGroup, if_neg (by simpa using hne)]
  split
  · next rest h =>
    rw [h]
    rfl
  · next h => rw [if_neg (head?_ne_some h)]

/-- The body of an entry adds nothing, if the groups below it add nothing. -/
theorem length_entryBody_le (hgroup : ∀ r, (readGroup fuel r).2.length ≤ r.length) (t : Text) :
    (entryBody fuel t).2.length ≤ t.length := by
  have hphrase := length_readPhrase_le (t.length + 1) t
  have hfill := length_afterFill_le (readPhrase (t.length + 1) t).2
  -- each way an entry can go on reads behind the phrase, or again from its beginning
  fun_cases entryBody fuel t <;>
    grind [length_afterFill_le, length_readAddress_le, length_readAngle_le]

mutual

/-- An entry adds nothing. Entries hold groups, and groups hold entries: the induction is on the
bound that both take one from. -/
theorem length_readEntry_le : ∀ (fuel : Nat) (t : Text), (readEntry fuel t).2.length ≤ t.length
  | 0, t => Nat.le_refl _
  | fuel + 1, t => by
    rw [readEntry_succ]
    exact (length_afterComma_le _).trans
      ((length_entryBody_le (length_readGroup_le fuel) _).trans (length_afterFill_le t))

/-- A group adds nothing. -/
theorem length_readGroup_le : ∀ (fuel : Nat) (t : Text), (readGroup fuel t).2.length ≤ t.length
  | 0, t => Nat.le_refl _
  | _ + 1, [] => Nat.le_refl _
  | fuel + 1, c :: rest => by
    have hfill := length_afterFill_le (c :: rest)
    have hentry := length_readEntry_le fuel (afterFill (c :: rest))
    have hgroup := length_readGroup_le fuel (readEntry fuel (afterFill (c :: rest))).2
    rw [readGroup_succ fuel (List.cons_ne_nil c rest)]
    split_ifs
    · exact (List.tail_suffix _).length_le.trans hfill
    · exact hgroup.trans (hentry.trans hfill)

end

/-- What begins without fill is read in part: a phrase takes its words, and where it has none the
mark at which it stops is taken. -/
theorem length_entryBody_lt (rest : Text) (hfold : isFold c = false) (hopen : c ≠ .char '(') :
    (entryBody fuel (c :: rest)).2.length < (c :: rest).length := by
  unfold entryBody
  generalize hphrase : readPhrase ((c :: rest).length + 1) (c :: rest) = words
  obtain ⟨phrase, left⟩ := words
  have hleft := length_readPhrase_le ((c :: rest).length + 1) (c :: rest)
  rw [hphrase] at hleft
  dsimp only
  -- by what stands behind the phrase: nothing, or the mark that says what the entry is
  match left with
  | [] => exact Nat.succ_pos _
  | d :: behind =>
    obtain ⟨hfold', hopen', -, hend'⟩ := head_of_readPhrase hphrase (Nat.le_succ _)
    rw [afterFill_of_head behind hfold' hopen']
    dsimp only
    split_ifs with hdot hcolon hangle hempty hspecial
    · -- The address is read from the beginning, where the phrase may have stopped at once.
      refine length_readAddress_lt rest hfold hopen fun hend => ?_
      by_cases hquote : c = .char '"'
      · exact .inl hquote
      · rw [readPhrase_of_endsWord rest hfold hopen hquote hend] at hphrase
        cases hphrase
        rcases Bool.or_eq_true _ _ ▸ hdot with hpoint | hat
        · cases of_decide_eq_true hpoint
          contradiction
        · exact .inr (of_decide_eq_true hat)
    · exact (length_readGroup_le fuel behind).trans_lt hleft
    · exact ((length_readAngle_le ..).trans (length_afterFill_le behind)).trans_lt hleft
    · exact hleft
    · exact absurd (isSpecial_of_endsWord hend' hfold') hspecial
    · exact length_readPhrase_lt hphrase (by simpa using hempty)

/-- Something is read of an entry. -/
theorem length_readEntry_lt (hfuel : fuel ≠ 0) (hne : t ≠ []) :
    (readEntry fuel t).2.length < t.length := by
  obtain ⟨fuel, rfl⟩ := Nat.exists_eq_succ_of_ne_zero hfuel
  rw [readEntry_succ]
  match hstart : afterFill t with
  | [] => exact List.length_pos_iff.mpr hne
  | c :: rest =>
    obtain ⟨hfold, hopen⟩ := head_of_afterFill hstart
    have hlen := length_afterFill_le t
    rw [hstart] at hlen
    exact (length_afterComma_le _).trans_lt ((length_entryBody_lt rest hfold hopen).trans_le hlen)

end AddressList

end MailFilter
