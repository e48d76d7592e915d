import MailFilter.Proofs.Message.Progress

/-!
# Readers of address lists do not look ahead

Where a reader of address lists leaves something, its answer does not depend on how the text goes
on, and neither does an answer on the fuel, if there is enough of it for the length of the text. So
what is read up to some point of a text is read alike in every text that begins in the same way.

- `MayFollow`: more text may follow only where something is left.
- `skipFill_append`, `readPhrase_append`, …, `readEntry_append`: with more text behind it a reader
  answers the same, and leaves what it left with that text behind it. Where nothing follows, this
  says that fuel beyond what is enough changes nothing.
-/

namespace MailFilter

namespace AddressList

/-- More text may follow what a reader leaves. A reader that leaves nothing may have wanted more. -/
def MayFollow (more left : Text) : Prop :=
  left = [] → more = []

variable {fuel fuel' depth : Nat} {last c : CodePoint} {t more left rest : Text}
  {p : CodePoint → Bool}

/-- More text may follow where more is left. -/
theorem MayFollow.of_length_le {left' : Text} (h : MayFollow more left)
    (hlen : left.length ≤ left'.length) : MayFollow more left' := fun hnil =>
  h (List.length_eq_zero_iff.mp (Nat.le_zero.mp (by simpa [hnil] using hlen)))

/-- What follows what a reader leaves may follow what it was given. -/
theorem MayFollow.of_read {α : Type} {r : α × Text} {a : α} (h : MayFollow more left)
    (hread : r = (a, left)) (hlen : r.2.length ≤ t.length) : MayFollow more t := by
  subst hread
  exact h.of_length_le hlen

theorem MayFollow.cons (c : CodePoint) (rest more : Text) : MayFollow more (c :: rest) :=
  fun h => absurd h (List.cons_ne_nil c rest)

theorem MayFollow.eq_nil (h : MayFollow more []) : more = [] :=
  h rfl

/-- The first code point of what is left is the same with more behind it, if there is any. -/
theorem head?_append (h : MayFollow more left) : (left ++ more).head? = left.head? := by
  cases left with
  | nil => rw [h.eq_nil, List.append_nil]
  | cons c rest => rfl

/-- A run that ends in a text ends at the same place with more behind it. -/
theorem dropWhile_append (h : MayFollow more (t.dropWhile p)) :
    (t ++ more).dropWhile p = t.dropWhile p ++ more := by
  rw [List.dropWhile_append]
  split
  · next hall =>
    rw [List.isEmpty_iff] at hall
    rw [hall, h hall]
    rfl
  · rfl

/-- So the run itself is the same. -/
theorem takeWhile_append (h : MayFollow more (t.dropWhile p)) :
    (t ++ more).takeWhile p = t.takeWhile p := by
  have hall : (t ++ more).takeWhile p ++ (t.dropWhile p ++ more) =
      t.takeWhile p ++ (t.dropWhile p ++ more) := by
    rw [← dropWhile_append h, List.takeWhile_append_dropWhile, dropWhile_append h,
      ← List.append_assoc, List.takeWhile_append_dropWhile]
  exact List.append_cancel_right hall

/-- Fuel for all of a text is fuel for one round, and for what follows the first code point. -/
theorem exists_fuel_of_cons {n : Nat} (h : (c :: rest).length + n ≤ fuel) :
    ∃ k, fuel = k + 1 ∧ rest.length + n ≤ k :=
  ⟨fuel - 1, by grind, by grind⟩

/-! ## Comments, quotations and fill -/

/-- A comment that ends is passed over in the same way. -/
theorem afterComment_append (h : MayFollow more (afterComment depth t)) :
    afterComment depth (t ++ more) = afterComment depth t ++ more := by
  fun_induction afterComment depth t with
  | case1 => rw [afterComment]
  -- at the end of the text nothing is left, so nothing follows
  | case2 => simp [h.eq_nil, afterComment]
  | case3 => simp [h.eq_nil, afterComment]
  | case4 depth d rest ih => simpa [afterComment] using ih h
  | case5 depth c d rest hc hd ih => simpa [afterComment, hc, hd] using ih h
  | case6 depth d rest hc hd ih => simpa [afterComment] using ih h
  | case7 depth c d rest hc hd hp ih => simpa [afterComment, hc, hd, hp] using ih h

/-- A quotation or literal that ends is read in the same way. -/
theorem readDelimited_append {word : Text} (h : readDelimited last t = (word, left))
    (hmore : MayFollow more left) : readDelimited last (t ++ more) = (word, left ++ more) := by
  fun_induction readDelimited last t generalizing word left with
  | case1 =>
    cases h
    simp [hmore.eq_nil, readDelimited]
  | case2 c hc =>
    cases h
    simp_all [hmore.eq_nil, readDelimited]
  | case3 c hc =>
    cases h
    simp_all [hmore.eq_nil, readDelimited]
  | case4 c d rest hc =>
    cases h
    simp [readDelimited, hc]
  | case5 d rest word after heq hc ih =>
    cases h
    simp only [List.cons_append, readDelimited, if_neg hc, if_pos, ih heq hmore]
  | case6 c d rest hc hd word after heq ih =>
    cases h
    rw [List.cons_append] at ih
    simp only [List.cons_append, readDelimited, if_neg hc, if_neg hd, ih heq hmore]

/-- Fill is passed over in the same way, with as much fuel as the longer text needs. -/
theorem skipFill_append {blanks : Text} (h : skipFill fuel t = (blanks, left))
    (hfuel : t.length ≤ fuel) (hfuel' : t.length + more.length ≤ fuel')
    (hmore : MayFollow more left) : skipFill fuel' (t ++ more) = (blanks, left ++ more) := by
  fun_induction skipFill fuel t generalizing fuel' blanks left with
  | case1 t =>
    -- No fuel is enough for the empty text only.
    cases h
    cases List.length_eq_zero_iff.mp (Nat.le_zero.mp hfuel)
    simp [hmore.eq_nil]
  | case2 fuel =>
    cases h
    simp [hmore.eq_nil]
  | case3 fuel c rest hc blanks after heq ih =>
    obtain ⟨fuel', rfl, hrest⟩ := exists_fuel_of_cons hfuel'
    cases h
    simp only [List.cons_append, skipFill, if_pos hc, ih heq (by grind) hrest hmore]
  | case4 fuel rest hc ih =>
    obtain ⟨fuel', rfl, hrest⟩ := exists_fuel_of_cons hfuel'
    have hcomment := length_afterComment_le 1 rest
    have hfollow := hmore.of_read h (length_skipFill_le ..)
    simp only [List.cons_append, skipFill, if_neg hc, if_pos, afterComment_append hfollow,
      ih h (by grind) ((Nat.add_le_add_right hcomment _).trans hrest) hmore]
  | case5 fuel c rest hc hd =>
    obtain ⟨fuel', rfl, -⟩ := exists_fuel_of_cons hfuel'
    cases h
    simp only [List.cons_append, skipFill, if_neg hc, if_neg hd]

/-- What follows fill is what followed it before, with more behind it. -/
theorem afterFill_append (h : MayFollow more (afterFill t)) :
    afterFill (t ++ more) = afterFill t ++ more := by
  rw [afterFill, skipFill_append rfl (Nat.le_refl _) List.length_append.ge h, afterFill]

/-! ## Phrases and addresses -/

/-- A phrase that ends is read in the same way. -/
theorem readPhrase_append {words : List Text} (h : readPhrase fuel t = (words, left))
    (hfuel : t.length ≤ fuel) (hfuel' : t.length + more.length ≤ fuel')
    (hmore : MayFollow more left) : readPhrase fuel' (t ++ more) = (words, left ++ more) := by
  fun_induction readPhrase fuel t generalizing fuel' words left with
  | case1 t =>
    cases h
    cases List.length_eq_zero_iff.mp (Nat.le_zero.mp hfuel)
    simp [hmore.eq_nil]
  | case2 fuel =>
    cases h
    simp [hmore.eq_nil]
  | case3 fuel c rest hfold ih =>
    obtain ⟨fuel', rfl, hrest⟩ := exists_fuel_of_cons hfuel'
    simp only [List.cons_append, readPhrase, if_pos hfold, ih h (by grind) hrest hmore]
  | case4 fuel rest word after hword words left hwords hfold ih =>
    obtain ⟨fuel', rfl, hrest⟩ := exists_fuel_of_cons hfuel'
    cases h
    have hafter := length_readDelimited_le (.char '"') rest
    rw [hword] at hafter
    have hfollow := hmore.of_read hwords (length_readPhrase_le ..)
    simp only [List.cons_append, readPhrase, if_neg hfold, if_pos,
      readDelimited_append hword hfollow,
      ih hwords (by grind) ((Nat.add_le_add_right hafter _).trans hrest) hmore]
  | case5 fuel rest hfold hquote ih =>
    obtain ⟨fuel', rfl, hrest⟩ := exists_fuel_of_cons hfuel'
    have hcomment := length_afterComment_le 1 rest
    have hfollow := hmore.of_read h (length_readPhrase_le ..)
    simp only [List.cons_append, readPhrase, if_neg hfold, if_neg hquote, if_pos,
      afterComment_append hfollow,
      ih h (by grind) ((Nat.add_le_add_right hcomment _).trans hrest) hmore]
  -- the mark at which the phrase ends stands in both texts
  | case6 fuel c rest hfold hquote hopen hend =>
    obtain ⟨fuel', rfl, -⟩ := exists_fuel_of_cons hfuel'
    cases h
    simp only [List.cons_append, readPhrase, if_neg hfold, if_neg hquote, if_neg hopen, if_pos hend]
  | case7 fuel c rest hfold hquote hopen hend word words after hwords =>
    rename_i ih
    obtain ⟨fuel', rfl, hrest⟩ := exists_fuel_of_cons hfuel'
    cases h
    have hdropped : ((c :: rest).dropWhile (!endsWord ·)).length ≤ rest.length :=
      length_dropWhile_cons_le rest (by simpa using hend)
    have hword := hmore.of_read hwords (length_readPhrase_le ..)
    simp only [readPhrase, List.cons_append, if_neg hfold, if_neg hquote, if_neg hopen,
      if_neg hend]
    rw [← List.cons_append, dropWhile_append hword, takeWhile_append hword,
      ih hwords (by grind) ((Nat.add_le_add_right hdropped _).trans hrest) hmore]

/-- Whether a part of a domain is kept depends on the first code point of what is left. -/
theorem addPart_append {part domain : Text} {r : Text × Text}
    (h : addPart part r = (domain, left)) (hmore : MayFollow more left) :
    addPart part (r.1, r.2 ++ more) = (domain, left ++ more) := by
  obtain ⟨rest, after⟩ := r
  have hafter : after = left := by simpa using congrArg Prod.snd h
  subst hafter
  unfold addPart at h ⊢
  rw [head?_append hmore]
  split_ifs at h ⊢ with hat <;> cases h <;> rfl

/-- A domain that ends is read in the same way. -/
theorem readDomain_append {domain : Text} (h : readDomain fuel t = (domain, left))
    (hfuel : t.length ≤ fuel) (hfuel' : t.length + more.length ≤ fuel')
    (hmore : MayFollow more left) : readDomain fuel' (t ++ more) = (domain, left ++ more) := by
  induction fuel generalizing fuel' t domain left with
  | zero =>
    cases List.length_eq_zero_iff.mp (Nat.le_zero.mp hfuel)
    cases h
    simp [hmore.eq_nil]
  | succ fuel ih =>
    match t with
    | [] =>
      cases h
      simp [hmore.eq_nil]
    | c :: rest =>
      obtain ⟨fuel', rfl, hrest⟩ := exists_fuel_of_cons hfuel'
      -- A part is kept or dropped by what stands behind it, so one statement covers all parts.
      have hpart {part behind : Text} (hbehind : behind.length ≤ rest.length)
          (h : addPart part (readDomain fuel behind) = (domain, left)) :
          MayFollow more behind ∧
            addPart part (readDomain fuel' (behind ++ more)) = (domain, left ++ more) := by
        have hleft : (readDomain fuel behind).2 = left := by simpa using congrArg Prod.snd h
        subst hleft
        refine ⟨hmore.of_length_le (length_readDomain_le fuel behind), ?_⟩
        rw [ih rfl (by grind) ((Nat.add_le_add_right hbehind _).trans hrest) hmore]
        exact addPart_append h hmore
      rw [readDomain_cons] at h
      rw [List.cons_append, readDomain_cons]
      split_ifs at h ⊢ with hspace hopen hbracket hpoint hend
      · exact ih h (by grind) hrest hmore
      · have hcomment := length_afterComment_le 1 rest
        rw [afterComment_append (hmore.of_read h (length_readDomain_le ..))]
        exact ih h (by grind) ((Nat.add_le_add_right hcomment _).trans hrest) hmore
      · have hword := hpart (length_readDelimited_le ..) h
        rw [readDelimited_append rfl hword.1]
        exact hword.2
      · exact (hpart (Nat.le_refl _) h).2
      · cases h
        rfl
      · have hword := hpart (length_dropWhile_cons_le rest (by simpa using hend)) h
        rw [← List.cons_append, dropWhile_append hword.1, takeWhile_append hword.1]
        exact hword.2

/-- A part in front of an at sign is read in the same way. -/
theorem readPart_append (h : MayFollow more (readPart c rest).2) :
    readPart c (rest ++ more) = ((readPart c rest).1, (readPart c rest).2 ++ more) := by
  unfold readPart at h ⊢
  split_ifs at h ⊢ with hquote
  · rw [readDelimited_append rfl h]
  · rw [← List.cons_append, dropWhile_append h, takeWhile_append h]

/-- So are all parts in front of an at sign, with the fill between them. -/
theorem readLocal_append {parts parts' : List Text} (h : readLocal fuel parts t = (parts', left))
    (hfuel : t.length ≤ fuel) (hfuel' : t.length + more.length ≤ fuel')
    (hmore : MayFollow more left) :
    readLocal fuel' parts (t ++ more) = (parts', left ++ more) := by
  induction fuel generalizing fuel' t parts parts' left with
  | zero =>
    cases List.length_eq_zero_iff.mp (Nat.le_zero.mp hfuel)
    cases h
    simp [hmore.eq_nil]
  | succ fuel ih =>
    match t with
    | [] =>
      cases h
      simp [hmore.eq_nil]
    | c :: rest =>
      obtain ⟨fuel', rfl, hrest⟩ := exists_fuel_of_cons hfuel'
      rw [readLocal_cons] at h
      rw [List.cons_append, readLocal_cons]
      split_ifs at h ⊢ with hpoint hend
      · have hfill := length_afterFill_le rest
        rw [afterFill_append (hmore.of_read h (length_readLocal_le ..))]
        exact ih h (by grind) ((Nat.add_le_add_right hfill _).trans hrest) hmore
      · cases h
        rfl
      · -- A part, the fill behind it, and the other parts.
        dsimp only at h ⊢
        have hafter := length_readPart_le rest (Bool.not_eq_true _ ▸ hend)
        generalize hpart : readPart c rest = part at h hafter
        obtain ⟨part, after⟩ := part
        generalize hfill : skipFill after.length after = fill at h
        obtain ⟨blanks, behind⟩ := fill
        have hbehind := length_skipFill_le after.length after
        rw [hfill] at hbehind
        have hfollow : MayFollow more behind := hmore.of_read h (length_readLocal_le ..)
        rw [readPart_append (hpart ▸ hfollow.of_length_le hbehind), hpart,
          skipFill_append hfill (Nat.le_refl _) List.length_append.ge hfollow]
        exact ih h (by grind) ((Nat.add_le_add_right (hbehind.trans hafter) _).trans hrest) hmore

/-- An address that ends is read in the same way, with a domain or without one. -/
theorem readAddress_append {address : Text} (h : readAddress t = (address, left))
    (hmore : MayFollow more left) : readAddress (t ++ more) = (address, left ++ more) := by
  rw [readAddress_eq] at h ⊢
  generalize hbefore : readLocal (t.length + 1) [] (afterFill t) = before at h
  obtain ⟨parts, rest⟩ := before
  have hstart := length_afterFill_le t
  dsimp only at h
  have hbefore' (hfollow : MayFollow more rest) :
      readLocal ((t ++ more).length + 1) [] (afterFill (t ++ more)) = (parts, rest ++ more) := by
    rw [afterFill_append (hfollow.of_read hbefore (length_readLocal_le ..))]
    exact readLocal_append hbefore (by grind) (by grind) hfollow
  -- behind an at sign more may follow the domain; without one, what stood in front of it
  split at h
  · next hat =>
    obtain ⟨behind, rfl⟩ := List.head?_eq_some_iff.mp hat
    rw [List.tail_cons] at h
    generalize hdomain : readDomain ((afterFill behind).length + 1) (afterFill behind) = read at h
    obtain ⟨domain, after⟩ := read
    cases h
    have hfollow := hmore.of_read hdomain (length_readDomain_le ..)
    rw [hbefore' (MayFollow.cons _ _ _), List.cons_append]
    dsimp only
    rw [List.head?_cons, if_pos rfl, List.tail_cons, afterFill_append hfollow,
      readDomain_append hdomain (Nat.le_succ _) (by grind) hmore]
  · next hat =>
    cases h
    rw [hbefore' hmore]
    dsimp only
    rw [head?_append hmore, if_neg hat]

/-- An address in angle brackets is read in the same way. A round may read a route or nothing but
its mark, so there are two of them for each code point. -/
theorem readAngle_append {expectRoute : Bool} {address : Text}
    (h : readAngle fuel expectRoute t = (address, left))
    (hfuel : 2 * t.length + expectRoute.toNat ≤ fuel)
    (hfuel' : 2 * (t.length + more.length) + expectRoute.toNat ≤ fuel')
    (hmore : MayFollow more left) :
    readAngle fuel' expectRoute (t ++ more) = (address, left ++ more) := by
  fun_induction readAngle fuel expectRoute t generalizing fuel' address left with
  | case1 expectRoute t =>
    cases h
    cases List.length_eq_zero_iff.mp (show t.length = 0 by omega)
    simp [hmore.eq_nil]
  | case2 expectRoute fuel =>
    cases h
    simp [hmore.eq_nil]
  | case3 fuel t hne ih =>
    obtain ⟨fuel', rfl⟩ : ∃ k, fuel' = k + 1 := ⟨fuel' - 1, by grind⟩
    have hdomain := length_readDomain_le (t.length + 1) t
    have hfill := length_afterFill_le (readDomain (t.length + 1) t).2
    have hfollow := hmore.of_read h (length_readAngle_le ..)
    rw [readAngle, readDomain_append rfl (by grind) (by grind) (hfollow.of_length_le hfill),
      afterFill_append hfollow]
    · exact ih h (by grind) (by grind) hmore
    · exact fun hnil => hne (List.append_eq_nil_iff.mp hnil).1
  | case4 fuel rest =>
    obtain ⟨fuel', rfl⟩ : ∃ k, fuel' = k + 1 := ⟨fuel' - 1, by grind⟩
    cases h
    rfl
  | case5 fuel rest hangle ih =>
    obtain ⟨fuel', rfl⟩ : ∃ k, fuel' = k + 1 := ⟨fuel' - 1, by grind⟩
    have hfill := length_afterFill_le rest
    have hfollow := hmore.of_read h (length_readAngle_le ..)
    simp only [List.cons_append, readAngle, if_neg hangle, if_pos, afterFill_append hfollow]
    exact ih h (by grind) (by grind) hmore
  | case6 fuel rest hangle hat ih =>
    obtain ⟨fuel', rfl⟩ : ∃ k, fuel' = k + 1 := ⟨fuel' - 1, by grind⟩
    have hfill := length_afterFill_le rest
    have hfollow := hmore.of_read h (length_readAngle_le ..)
    simp only [List.cons_append, readAngle, if_neg hangle, if_neg hat, if_pos,
      afterFill_append hfollow]
    exact ih h (by grind) (by grind) hmore
  | case7 fuel c rest hangle hat hcolon address after heq =>
    obtain ⟨fuel', rfl⟩ : ∃ k, fuel' = k + 1 := ⟨fuel' - 1, by grind⟩
    cases h
    -- The bracket that closes the address is dropped, or what stands in its place.
    have hafter : MayFollow more after := hmore.of_length_le (by grind)
    have haddress := readAddress_append heq hafter
    rw [List.cons_append] at haddress
    simp only [List.cons_append, readAngle, if_neg hangle, if_neg hat, if_neg hcolon, haddress]
    match after with
    | [] => rw [hafter.eq_nil, List.append_nil, List.append_nil]
    | d :: behind => rfl

/-! ## Entries and groups -/

/-- The comma behind an entry is found in the same way. -/
theorem afterComma_append (h : MayFollow more (afterComma t)) :
    afterComma (t ++ more) = afterComma t ++ more := by
  unfold afterComma at h ⊢
  split_ifs at h with hcomma
  · obtain ⟨rest, hrest⟩ := List.head?_eq_some_iff.mp hcomma
    rw [afterFill_append (hrest ▸ MayFollow.cons _ _ _), hrest]
    rfl
  · rw [afterFill_append h, head?_append h, if_neg hcomma, if_neg hcomma]

/-- The body of an entry is read in the same way, if the group behind its colon is. -/
theorem entryBody_append {addresses : List Text} {start : Text}
    (h : entryBody fuel start = (addresses, left)) (hmore : MayFollow more left)
    (hgroup : ∀ {rest : Text}, rest.length < start.length →
      readGroup fuel rest = (addresses, left) →
        readGroup fuel' (rest ++ more) = (addresses, left ++ more)) :
    entryBody fuel' (start ++ more) = (addresses, left ++ more) := by
  unfold entryBody at h ⊢
  generalize hphrase : readPhrase (start.length + 1) start = words at h
  obtain ⟨phrase, rest⟩ := words
  have hrest := length_readPhrase_le (start.length + 1) start
  have hfill := length_afterFill_le rest
  rw [hphrase] at hrest
  have hphrase' (hfollow : MayFollow more (afterFill rest)) :
      readPhrase ((start ++ more).length + 1) (start ++ more) = (phrase, rest ++ more) :=
    readPhrase_append hphrase (by grind) (by grind) (hfollow.of_length_le hfill)
  dsimp only at h
  -- a phrase up to the end, or a mark behind it, which both texts have
  split at h
  · next hnil =>
    cases h
    rw [hphrase' (hnil ▸ hmore)]
    dsimp only
    rw [afterFill_append (hnil ▸ hmore), hnil, hmore.eq_nil]
    rfl
  · next c behind hcons =>
    have hfollow : MayFollow more (afterFill rest) := hcons ▸ MayFollow.cons c behind more
    rw [hphrase' hfollow]
    dsimp only
    rw [afterFill_append hfollow, hcons]
    dsimp only [List.cons_append]
    split_ifs at h ⊢ with hdot hcolon hangle hempty hspecial
    · generalize haddress : readAddress start = read at h
      cases h
      rw [readAddress_append haddress hmore]
    · exact hgroup (by grind) h
    · generalize hfuel : 2 * (afterFill behind).length + 2 = n at h
      generalize haddress : readAngle n false (afterFill behind) = read at h
      obtain ⟨address, after⟩ := read
      cases h
      rw [afterFill_append (hmore.of_read haddress (length_readAngle_le ..)),
        readAngle_append haddress (by grind) (by grind) hmore]
    · cases h
      rfl
    · cases h
      rfl
    · cases h
      rfl

mutual

/-- An entry takes two rounds for each code point at most, one of which may be that of a group. -/
theorem readEntry_append : ∀ {fuel fuel' : Nat} {t left : Text} {addresses : List Text},
    readEntry fuel t = (addresses, left) → 2 * t.length ≤ fuel →
    2 * (t.length + more.length) ≤ fuel' → MayFollow more left →
    readEntry fuel' (t ++ more) = (addresses, left ++ more)
  | 0, fuel', t, left, addresses, h, hfuel, hfuel', hmore => by
    cases List.length_eq_zero_iff.mp (show t.length = 0 by omega)
    cases h
    simp [hmore.eq_nil]
  | fuel + 1, 0, t, left, addresses, h, hfuel, hfuel', hmore => by
    cases List.length_eq_zero_iff.mp (show t.length = 0 by omega)
    cases List.length_eq_zero_iff.mp (show more.length = 0 by omega)
    simpa using h
  | fuel + 1, fuel' + 1, t, left, addresses, h, hfuel, hfuel', hmore => by
    rw [readEntry_succ] at h ⊢
    generalize hbody : entryBody fuel (afterFill t) = body at h
    obtain ⟨addresses, after⟩ := body
    cases h
    have hfill := length_afterFill_le t
    have hfollow := hmore.of_length_le (length_afterComma_le after)
    have hstart := hfollow.of_read hbody (length_entryBody_le (length_readGroup_le fuel) _)
    have hbody' : entryBody fuel' (afterFill t ++ more) = (addresses, after ++ more) :=
      entryBody_append hbody hfollow fun hrest hgroup =>
        readGroup_append hgroup (by omega) (by omega) hfollow
    rw [afterFill_append hstart, hbody']
    dsimp only
    rw [afterComma_append hmore]

/-- A group takes one round more than its entries, for its own end. -/
theorem readGroup_append : ∀ {fuel fuel' : Nat} {t left : Text} {addresses : List Text},
    readGroup fuel t = (addresses, left) → 2 * t.length + 1 ≤ fuel →
    2 * (t.length + more.length) + 1 ≤ fuel' → MayFollow more left →
    readGroup fuel' (t ++ more) = (addresses, left ++ more)
  | fuel + 1, fuel' + 1, t, left, addresses, h, hfuel, hfuel', hmore => by
    by_cases ht : t = []
    · subst ht
      cases h
      rw [hmore.eq_nil]
      rfl
    rw [readGroup_succ fuel ht] at h
    rw [readGroup_succ fuel' (by simp [ht])]
    have hfill := length_afterFill_le t
    split_ifs at h with hsemicolon
    · cases h
      obtain ⟨rest, hrest⟩ := List.head?_eq_some_iff.mp hsemicolon
      rw [afterFill_append (hrest ▸ MayFollow.cons _ _ _), hrest]
      rfl
    · generalize hentry : readEntry fuel (afterFill t) = entry at h
      obtain ⟨addresses, after⟩ := entry
      dsimp only at h
      generalize hothers : readGroup fuel after = others at h
      obtain ⟨others, left⟩ := others
      cases h
      have hafter := length_readEntry_le fuel (afterFill t)
      rw [hentry] at hafter
      -- The fuel lasts for the other entries because something is read of this one.
      have hpos := List.length_pos_iff.mpr ht
      have hlt : after.length < t.length := by
        by_cases hnil : afterFill t = []
        · rw [hnil] at hafter
          exact hafter.trans_lt hpos
        · have hread : (readEntry fuel (afterFill t)).2.length < (afterFill t).length :=
            length_readEntry_lt (by omega) hnil
          rw [hentry] at hread
          exact hread.trans_le hfill
      have hbehind := hmore.of_read hothers (length_readGroup_le ..)
      have hfollow := hbehind.of_length_le hafter
      rw [afterFill_append hfollow, head?_append hfollow, if_neg hsemicolon,
        readEntry_append hentry (by omega) (by omega) hbehind]
      dsimp only
      rw [readGroup_append hothers (by omega) (by omega) hmore]

end

end AddressList

end MailFilter
