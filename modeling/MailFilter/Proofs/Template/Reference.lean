import MailFilter.Variable.Template

/-!
# The grammar of references

The scanner reads a reference code point by code point. Here its language is said without the
scanner: a name is *spelled* by a body, and a *site* is a position of a text at which a marker, a
body and a closing brace stand.

- `Template.Spells`: the ways to write a name between the braces.
- `Template.referenceAt?_eq_some_iff`: what is read at a position is exactly a body that spells a
  name, followed by a closing brace.
- `Template.IsWritten`: the same, said by the position of the brace and the part of the text before
  it.
- `Template.referenceAt?_exact`: what is read at a position, and that nothing else could be.
- `Template.siteAt?`: the reference of which the marker stands at a position.
- `Template.spans_disjoint`: two sites have no position in common. A body holds no dollar sign, so
  no site begins inside another one.
-/

namespace MailFilter

namespace Template

/-! ## Texts from a position on -/

/-- What is behind a position begins with what stands there. -/
theorem getElem?_of_drop {t rest : Text} {c : CodePoint} {p : Nat} (h : t.drop p = c :: rest) :
    t[p]? = some c := by
  rw [← List.head?_drop, h]
  rfl

/-- Behind the next position stands the rest. -/
theorem drop_succ_of_drop {t rest : Text} {c : CodePoint} {p : Nat} (h : t.drop p = c :: rest) :
    t.drop (p + 1) = rest := by
  rw [← List.tail_drop, h]
  rfl

/-- A position is as far from the end as what is behind it is long. -/
theorem length_sub_of_drop {t body rest : Text} {c : CodePoint} {p : Nat}
    (h : t.drop p = body ++ c :: rest) : t.length - p = body.length + rest.length + 1 := by
  rw [← List.length_drop, h, List.length_append, List.length_cons, Nat.add_assoc]

/-! ## Bodies -/

/-- The ways to write a name: a code point of a name stands for itself, with a backslash before it
or without, and a backslash is written twice. -/
inductive Spells : Text → Text → Prop
  | nil : Spells [] []
  | plain {c : CodePoint} {body name : Text} :
      isNamePoint c = true → Spells body name → Spells (c :: body) (c :: name)
  | escaped {c : CodePoint} {body name : Text} :
      isNamePoint c = true → Spells body name → Spells (.char '\\' :: c :: body) (c :: name)
  | backslash {body name : Text} :
      Spells body name → Spells (.char '\\' :: .char '\\' :: body) (.char '\\' :: name)

/-- Every spelling is read, up to the brace that closes it. -/
theorem readName?_of_spells {body name : Text} (h : Spells body name) (after : Text) :
    readName? (body ++ .char '}' :: after) = some (name, after) := by
  induction h with
  | nil => rfl
  | @plain c body name hc _ ih =>
    -- a code point of a name is neither of the two that the reader asks for first
    have hbrace : c ≠ .char '}' := by rintro rfl; exact absurd hc (by decide)
    have hback : c ≠ .char '\\' := by rintro rfl; exact absurd hc (by decide)
    rw [List.cons_append, readName?]
    · rw [if_pos hc, ih]
      rfl
    · exact hbrace
    · intro d rest hcons _
      exact hback hcons
  | @escaped c body name hc _ ih =>
    show readName? (.char '\\' :: c :: (body ++ .char '}' :: after)) = _
    rw [readName?, if_pos (by simp [hc]), ih]
    rfl
  | backslash _ ih =>
    show readName? (.char '\\' :: .char '\\' :: (_ ++ .char '}' :: after)) = _
    rw [readName?, if_pos (by simp), ih]
    rfl

/-- Nothing but a spelling is read. -/
theorem spells_of_readName? {t name after : Text} (h : readName? t = some (name, after)) :
    ∃ body, Spells body name ∧ t = body ++ .char '}' :: after := by
  fun_induction readName? t generalizing name after with
  | case1 => contradiction
  | case2 rest =>
    obtain ⟨rfl, rfl⟩ := Prod.mk.injEq .. ▸ Option.some.injEq .. ▸ h
    exact ⟨[], .nil, rfl⟩
  | case3 c rest hc ih =>
    obtain ⟨⟨n, a⟩, hr, hp⟩ := Option.map_eq_some_iff.mp h
    obtain ⟨rfl, rfl⟩ := Prod.mk.injEq .. ▸ hp
    obtain ⟨body, hbody, rfl⟩ := ih hr
    refine ⟨.char '\\' :: c :: body, ?_, rfl⟩
    -- behind a backslash there may be another one
    rcases Bool.or_eq_true_iff.mp hc with hback | hname
    · obtain rfl : c = .char '\\' := by simpa using hback
      exact .backslash hbody
    · exact .escaped hname hbody
  | case4 => contradiction
  | case5 c rest _ _ hc ih =>
    obtain ⟨⟨n, a⟩, hr, hp⟩ := Option.map_eq_some_iff.mp h
    obtain ⟨rfl, rfl⟩ := Prod.mk.injEq .. ▸ hp
    obtain ⟨body, hbody, rfl⟩ := ih hr
    exact ⟨c :: body, .plain hc hbody, rfl⟩
  | case6 => contradiction

/-- A spelling holds code points of names and backslashes only. -/
theorem Spells.not_mem {c : CodePoint} {body name : Text} (h : Spells body name)
    (hname : isNamePoint c = false) (hback : c ≠ .char '\\') : c ∉ body := by
  induction h with
  | nil => exact List.not_mem_nil
  | plain hc _ ih | escaped hc _ ih => grind
  | backslash _ ih => grind

/-- A marker begins with a dollar sign, and no spelling holds one. -/
theorem Spells.not_mem_dollar {body name : Text} (h : Spells body name) : .char '$' ∉ body :=
  h.not_mem (by decide) (by decide)

/-- A spelling ends before the first closing brace. -/
theorem Spells.not_mem_brace {body name : Text} (h : Spells body name) : .char '}' ∉ body :=
  h.not_mem (by decide) (by decide)

/-- A name that is not empty has a spelling that is not empty. -/
theorem Spells.body_ne_nil {body name : Text} (h : Spells body name) (hname : name ≠ []) :
    body ≠ [] := by
  rintro rfl
  cases h
  exact hname rfl

/-- Names consist of ASCII letters, digits and two marks. -/
theorem isAscii_of_isNamePoint {c : CodePoint} (h : isNamePoint c = true) : c.isAscii = true := by
  simp only [isNamePoint, Bool.or_eq_true, decide_eq_true_eq] at h
  rcases h with (h | rfl) | rfl
  · exact CodePoint.isAscii_of_isAlphanum h
  · decide
  · decide

/-- A name that can be spelled is in ASCII. -/
theorem Spells.isAscii {body name : Text} (h : Spells body name) :
    ∀ c ∈ name, c.isAscii = true := by
  -- on the spelling: each of its rules adds one code point to the name
  induction h with
  | nil => exact List.forall_mem_nil _
  | plain hc _ ih => exact List.forall_mem_cons.mpr ⟨isAscii_of_isNamePoint hc, ih⟩
  | escaped hc _ ih => exact List.forall_mem_cons.mpr ⟨isAscii_of_isNamePoint hc, ih⟩
  | backslash _ ih => exact List.forall_mem_cons.mpr ⟨by decide, ih⟩

/-- A name is not empty and does not begin with two digits. -/
theorem isName_iff {name : Text} :
    isName name = true ↔
      name ≠ [] ∧ ¬∃ c d rest, name = c :: d :: rest ∧ c.isDigit = true ∧ d.isDigit = true := by
  match name with
  | [] => simp [isName]
  | [c] => simp [isName, startsWithTwoDigits]
  | c :: d :: rest => cases hc : c.isDigit <;> simp [isName, startsWithTwoDigits, hc]

/-- A reference is a spelling of a name up to the brace that closes it. -/
theorem readReference?_eq_some_iff {t name after : Text} :
    readReference? t = some (name, after) ↔
      ∃ body, Spells body name ∧ isName name = true ∧ t = body ++ .char '}' :: after := by
  rw [readReference?, Option.filter_eq_some_iff]
  constructor
  · rintro ⟨hread, hname⟩
    obtain ⟨body, hbody, rfl⟩ := spells_of_readName? hread
    exact ⟨body, hbody, hname, rfl⟩
  · rintro ⟨body, hbody, hname, rfl⟩
    exact ⟨readName?_of_spells hbody after, hname⟩

/-- The positions of a reference: two code points of a marker, the body, and the brace. -/
theorem referenceAt?_eq_some_iff {t name : Text} {i stop : Nat} :
    referenceAt? t i = some (name, stop) ↔
      ∃ body, Spells body name ∧ isName name = true ∧ stop = i + body.length + 3 ∧
        t.drop (i + 2) = body ++ .char '}' :: t.drop stop := by
  constructor
  · intro h
    obtain ⟨⟨n, after⟩, hread, hp⟩ := Option.map_eq_some_iff.mp h
    obtain ⟨rfl, rfl⟩ := Prod.mk.injEq .. ▸ hp
    obtain ⟨body, hbody, hname, hdrop⟩ := readReference?_eq_some_iff.mp hread
    have hlen := length_sub_of_drop hdrop
    have hstop : t.length - after.length = (i + 2) + (body.length + 1) := by omega
    refine ⟨body, hbody, hname, by omega, ?_⟩
    rw [hstop, ← List.drop_drop (i := body.length + 1), hdrop]
    simp
  · rintro ⟨body, hbody, hname, hstop, hdrop⟩
    have hread : readReference? (t.drop (i + 2)) = some (name, t.drop stop) :=
      readReference?_eq_some_iff.mpr ⟨body, hbody, hname, hdrop⟩
    have hlen := length_sub_of_drop hdrop
    rw [List.length_drop] at hlen
    rw [referenceAt?, hread]
    simp only [Option.map_some, List.length_drop, Option.some.injEq, Prod.mk.injEq, true_and]
    omega

/-! ## Closing braces -/

section Written

variable {t name : Text} {start stop : Nat}

/-- A reference stands at a position and ends at another: in front of its end is a brace, and the
part of the text between the place of the marker and the brace spells its name, which is not empty
and does not begin with two digits. -/
structure IsWritten (t : Text) (start : Nat) (name : Text) (stop : Nat) : Prop where
  closed : t[stop - 1]? = some (.char '}')
  spelled : Spells (t.extract (start + 2) (stop - 1)) name
  nonempty : name ≠ []
  notNumbered : ¬∃ c d rest, name = c :: d :: rest ∧ c.isDigit = true ∧ d.isDigit = true

/-- The part of the text in front of the brace has the length that the positions say. -/
theorem IsWritten.length_extract (h : IsWritten t start name stop) :
    start + (t.extract (start + 2) (stop - 1)).length + 3 = stop := by
  have hinside : stop - 1 < t.length := (List.getElem?_eq_some_iff.mp h.closed).1
  have hpos := List.length_pos_iff.mpr (h.spelled.body_ne_nil h.nonempty)
  rw [List.extract, List.length_take, List.length_drop] at hpos ⊢
  omega

/-- Behind the place of the marker stand the spelling, the brace, and what is behind the end. -/
theorem IsWritten.drop_eq (h : IsWritten t start name stop) :
    t.drop (start + 2) = t.extract (start + 2) (stop - 1) ++ .char '}' :: t.drop stop := by
  have hlen := h.length_extract
  obtain ⟨hinside, hbrace⟩ := List.getElem?_eq_some_iff.mp h.closed
  have hbehind : t.drop (stop - 1) = .char '}' :: t.drop stop := by
    rw [List.drop_eq_getElem_cons hinside, hbrace]
    congr 2
    omega
  have hplace : start + 2 + (stop - 1 - (start + 2)) = stop - 1 := by omega
  calc t.drop (start + 2)
      = (t.drop (start + 2)).take (stop - 1 - (start + 2)) ++
          (t.drop (start + 2)).drop (stop - 1 - (start + 2)) := (List.take_append_drop ..).symm
    _ = t.extract (start + 2) (stop - 1) ++ t.drop (stop - 1) := by
      rw [List.drop_drop, hplace, List.extract]
    _ = t.extract (start + 2) (stop - 1) ++ .char '}' :: t.drop stop := by rw [hbehind]

/-- What is read at a position is what is written there. -/
theorem referenceAt?_eq_some_iff_isWritten :
    referenceAt? t start = some (name, stop) ↔ IsWritten t start name stop := by
  rw [referenceAt?_eq_some_iff]
  constructor
  · rintro ⟨body, hbody, hname, rfl, hdrop⟩
    obtain ⟨hnonempty, hnumbered⟩ := isName_iff.mp hname
    have hend : start + body.length + 3 - 1 = start + 2 + body.length := by omega
    have hextract : t.extract (start + 2) (start + body.length + 3 - 1) = body := by
      rw [hend, List.extract, hdrop, Nat.add_sub_cancel_left]
      exact List.take_left
    have hbrace : t[start + body.length + 3 - 1]? = some (.char '}') := by
      rw [hend, ← List.getElem?_drop, hdrop, List.getElem?_append_right (Nat.le_refl _),
        Nat.sub_self]
      rfl
    exact ⟨hbrace, hextract.symm ▸ hbody, hnonempty, hnumbered⟩
  · intro h
    have hname := isName_iff.mpr ⟨h.nonempty, h.notNumbered⟩
    exact ⟨_, h.spelled, hname, h.length_extract.symm, h.drop_eq⟩

/-- The brace that ends a reference is the first one behind the place of its marker. -/
theorem IsWritten.first_brace (h : IsWritten t start name stop) :
    start + 2 ≤ stop - 1 ∧
      ∀ j, start + 2 ≤ j → j < stop - 1 → t[j]? ≠ some (.char '}') := by
  have hlen := h.length_extract
  refine ⟨by omega, fun j hj hbefore hbrace => h.spelled.not_mem_brace ?_⟩
  have hget : (t.extract (start + 2) (stop - 1))[j - (start + 2)]? = some (.char '}') := by
    rw [List.extract, List.getElem?_take_of_lt (by omega), List.getElem?_drop]
    rwa [Nat.add_sub_of_le hj]
  exact List.mem_of_getElem? hget

end Written

/-- A reference is read at a position if and only if one is written there. It ends behind the first
closing brace, so no other name can be written there and no other end is possible; where none is
written, none is read. -/
theorem referenceAt?_exact (t : Text) (start : Nat) :
    (∀ name stop, referenceAt? t start = some (name, stop) ↔ IsWritten t start name stop) ∧
    (∀ name stop, IsWritten t start name stop →
      (start + 2 ≤ stop - 1 ∧
        ∀ j, start + 2 ≤ j → j < stop - 1 → t[j]? ≠ some (.char '}')) ∧
      ∀ other stop', IsWritten t start other stop' → other = name ∧ stop' = stop) ∧
    (referenceAt? t start = none ↔ ∀ name stop, ¬IsWritten t start name stop) := by
  refine ⟨fun name stop => referenceAt?_eq_some_iff_isWritten, ?_, ?_⟩
  · intro name stop h
    refine ⟨h.first_brace, fun other stop' hother => ?_⟩
    have hread := referenceAt?_eq_some_iff_isWritten.mpr h
    rw [referenceAt?_eq_some_iff_isWritten.mpr hother, Option.some.injEq, Prod.mk.injEq] at hread
    exact hread
  · simp only [← referenceAt?_eq_some_iff_isWritten, Option.eq_none_iff_forall_ne_some, Prod.forall,
      ne_eq]

/-- A backslash in front of a dot, one in front of another, and a second brace behind the first. -/
theorem referenceAt?_exact_escaped :
    let t : Text := "x$\x7ba\\.\\\\\x7d\x7d"
    referenceAt? t 1 = some (("a.\\" : Text), 9) ∧ IsWritten t 1 "a.\\" 9 ∧
      ∀ j, 3 ≤ j → j < 8 → t[j]? ≠ some (.char '}') := by
  intro t
  obtain ⟨hreads, hends, -⟩ := referenceAt?_exact t 1
  have hread : referenceAt? t 1 = some (("a.\\" : Text), 9) := by decide
  have hwritten := (hreads _ _).mp hread
  exact ⟨hread, hwritten, (hends _ _ hwritten).1.2⟩

/-! ## Sites -/

/-- The code points that open a reference. -/
def marker : Text := [.char '$', .char '{']

/-- The reference of which the marker stands at a position: its name, and the position behind it. -/
def siteAt? (t : Text) (i : Nat) : Option (Text × Nat) :=
  if (t.drop i).take 2 = marker then referenceAt? t i else none

/-- A site is a marker with a reference behind it. -/
theorem siteAt?_eq_some_iff {t name : Text} {i stop : Nat} :
    siteAt? t i = some (name, stop) ↔
      (t.drop i).take 2 = marker ∧ referenceAt? t i = some (name, stop) := by
  unfold siteAt?
  split <;> simp_all

/-- A site is a reference that the text behind the position begins with. -/
theorem siteAt?_eq_map_reference? (t : Text) (i : Nat) :
    siteAt? t i =
      (reference? (t.drop i)).map fun (name, after) => (name, t.length - after.length) := by
  unfold siteAt?
  split
  · next hm =>
    obtain ⟨rest, hrest⟩ : ∃ rest, t.drop i = .char '$' :: .char '{' :: rest :=
      ⟨(t.drop i).drop 2, by rw [← List.take_append_drop 2 (t.drop i), hm]; rfl⟩
    have hbehind : t.drop (i + 2) = rest := by
      rw [← List.drop_drop, hrest]
      rfl
    rw [hrest, referenceAt?, hbehind]
    rfl
  · next hm =>
    have : reference? (t.drop i) = none := by
      unfold reference?
      split
      · next heq => exact absurd (by rw [heq]; rfl) hm
      · rfl
    rw [this]
    rfl

/-- What is behind a reference is the end of the text. -/
theorem suffix_of_reference? {t name after : Text} (h : reference? t = some (name, after)) :
    after <:+ t := by
  unfold reference? at h
  split at h
  · obtain ⟨body, -, -, rfl⟩ := readReference?_eq_some_iff.mp h
    exact ⟨.char '$' :: .char '{' :: (body ++ [.char '}']), by simp⟩
  · contradiction

/-- Where the text behind a position begins with a reference, a site stands there. -/
theorem siteAt?_of_reference? {t name after : Text} {i : Nat}
    (h : reference? (t.drop i) = some (name, after)) :
    ∃ stop, siteAt? t i = some (name, stop) ∧ after = t.drop stop := by
  refine ⟨t.length - after.length, ?_, ?_⟩
  · rw [siteAt?_eq_map_reference?, h]
    rfl
  · exact List.suffix_iff_eq_drop.mp ((suffix_of_reference? h).trans (List.drop_suffix i t))

/-- Where no reference begins there is no site. -/
theorem siteAt?_eq_none_of_reference? {t : Text} {i : Nat} (h : reference? (t.drop i) = none) :
    siteAt? t i = none := by
  rw [siteAt?_eq_map_reference?, h]
  rfl

/-- The span of a site is not empty and lies within the text. -/
theorem span_of_siteAt? {t name : Text} {i stop : Nat} (h : siteAt? t i = some (name, stop)) :
    i < stop ∧ stop ≤ t.length := by
  obtain ⟨body, -, -, hstop, hdrop⟩ := referenceAt?_eq_some_iff.mp (siteAt?_eq_some_iff.mp h).2
  have hlen := length_sub_of_drop hdrop
  rw [List.length_drop] at hlen
  omega

/-- What stands in the span of a site. -/
theorem drop_of_siteAt? {t name : Text} {i stop : Nat} (h : siteAt? t i = some (name, stop)) :
    ∃ body, Spells body name ∧ stop = i + body.length + 3 ∧
      t.drop i = .char '$' :: (.char '{' :: body ++ [.char '}']) ++ t.drop stop := by
  obtain ⟨hmark, href⟩ := siteAt?_eq_some_iff.mp h
  obtain ⟨body, hbody, -, hstop, hdrop⟩ := referenceAt?_eq_some_iff.mp href
  refine ⟨body, hbody, hstop, ?_⟩
  rw [← List.take_append_drop 2 (t.drop i), hmark, List.drop_drop, hdrop]
  simp [marker]

/-- A site begins with a dollar sign. -/
theorem getElem?_of_siteAt? {t name : Text} {i stop : Nat} (h : siteAt? t i = some (name, stop)) :
    t[i]? = some (.char '$') := by
  obtain ⟨body, -, -, hdrop⟩ := drop_of_siteAt? h
  exact getElem?_of_drop hdrop

/-- So no site begins with a backslash. -/
theorem siteAt?_eq_none_of_backslash {t : Text} {i : Nat} (h : t[i]? = some (.char '\\')) :
    siteAt? t i = none := by
  refine Option.eq_none_iff_forall_ne_some.mpr fun ⟨name, stop⟩ hsite => ?_
  rw [getElem?_of_siteAt? hsite] at h
  exact absurd h (by decide)

/-- Behind its first code point a site holds no dollar sign, so no other site begins there. -/
theorem siteAt?_eq_none_of_inside {t name : Text} {i j stop : Nat}
    (h : siteAt? t i = some (name, stop)) (hij : i < j) (hj : j < stop) : siteAt? t j = none := by
  obtain ⟨body, hbody, hstop, hdrop⟩ := drop_of_siteAt? h
  obtain ⟨k, rfl⟩ : ∃ k, j = i + (k + 1) := ⟨j - i - 1, by omega⟩
  have hk : k < (.char '{' :: body ++ [.char '}'] : Text).length := by
    simp only [List.length_append, List.length_cons, List.length_nil]
    omega
  have hget : t[i + (k + 1)]? = (.char '{' :: body ++ [.char '}'] : Text)[k]? := by
    rw [← List.getElem?_drop, hdrop, List.cons_append, List.getElem?_cons_succ,
      List.getElem?_append_left hk]
  -- a site at `j` would put a dollar sign into the span
  refine Option.eq_none_iff_forall_ne_some.mpr fun ⟨other, stop'⟩ hsite => ?_
  rw [getElem?_of_siteAt? hsite] at hget
  rcases List.mem_append.mp (List.mem_of_getElem? hget.symm) with hmem | hmem
  · rcases List.mem_cons.mp hmem with heq | hmem
    · exact absurd heq (by decide)
    · exact hbody.not_mem_dollar hmem
  · exact absurd (List.mem_singleton.mp hmem) (by decide)

/-- The spans of two sites have no position in common. -/
theorem spans_disjoint {t name other : Text} {i j stop stop' : Nat}
    (hi : siteAt? t i = some (name, stop)) (hj : siteAt? t j = some (other, stop'))
    (hij : i < j) : stop ≤ j := by
  refine Nat.le_of_not_lt fun hlt => ?_
  rw [siteAt?_eq_none_of_inside hi hij hlt] at hj
  contradiction

end Template

end MailFilter
