import Mathlib
import MailFilter.Proofs.Json.Written

/-!
# Reading trees back

The text form of a tree begins with no blank and no closing bracket, and behind it stands nothing, a
comma or a closing bracket. So a reader knows from the first code point what it is going to read, and
knows where it ends. A tree without floating-point numbers is read back from its text form.

- `Json.floatFree`: a tree without floating-point numbers.
- `Json.Opens`: how the text form of a tree begins.
- `Json.readTree?_write`: a tree is read back where its text form stands.
- `Json.read?_write`: a tree is read back from its text form.
- `Json.hasNoControl_write`: the text form is on one line.
-/

namespace MailFilter

namespace Json

mutual

/-- Whether a tree holds no floating-point number. -/
def floatFree : Json → Bool
  | .null | .bool _ | .int _ | .text _ => true
  | .float _ => false
  | .array items => itemsFloatFree items
  | .object members => membersFloatFree members

/-- Whether no item of an array holds one. -/
def itemsFloatFree : List Json → Bool
  | [] => true
  | j :: rest => j.floatFree && itemsFloatFree rest

/-- Whether no member of an object holds one. -/
def membersFloatFree : List (Text × Json) → Bool
  | [] => true
  | (_, j) :: rest => j.floatFree && membersFloatFree rest

end

/-! ## Where a tree begins and ends -/

/-- Begins with neither a blank nor a closing bracket. -/
def Opens (t : Text) : Prop :=
  ∃ c rest, t = c :: rest ∧ isBlank c = false ∧ c ≠ .char ']'

/-- How a text begins does not depend on what follows. -/
theorem Opens.append {t : Text} (h : Opens t) (rest : Text) : Opens (t ++ rest) := by
  obtain ⟨c, more, rfl, hblank, hbracket⟩ := h
  exact ⟨c, more ++ rest, rfl, hblank, hbracket⟩

theorem Opens.length_pos {t : Text} (h : Opens t) : 0 < t.length := by
  obtain ⟨c, more, rfl, -⟩ := h
  exact Nat.succ_pos _

/-- Blanks are passed over only in front. -/
theorem skipBlanks_cons {c : CodePoint} (h : isBlank c = false) (t : Text) :
    skipBlanks (c :: t) = c :: t :=
  List.dropWhile_cons_of_neg (by simp [h])

/-- No blanks are passed over where a tree begins. -/
theorem Opens.skipBlanks_eq {t : Text} (h : Opens t) : skipBlanks t = t := by
  obtain ⟨c, more, rfl, hblank, -⟩ := h
  exact skipBlanks_cons hblank more

/-- A digit, or a minus sign and a digit. -/
def BeginsNumber (t : Text) : Prop :=
  ∃ d rest, d.isDigit = true ∧ (t = d :: rest ∨ t = .char '-' :: d :: rest)

/-- The sign and the digits of an integer begin a number, whatever follows. -/
theorem beginsNumber_ofInt (n : Int) (rest : Text) : BeginsNumber (Text.ofInt n ++ rest) := by
  have hdigits (m : Nat) : ∃ d more, d.isDigit = true ∧ Text.ofNat m = d :: more := by
    obtain ⟨d, more, hm⟩ := List.exists_cons_of_ne_nil (Text.ofNat_ne_nil m)
    exact ⟨d, more, Text.isDigit_of_mem_ofNat (n := m) (by simp [hm]), hm⟩
  cases n with
  | ofNat m =>
    obtain ⟨d, more, hd, hm⟩ := hdigits m
    exact ⟨d, more ++ rest, hd, .inl (congrArg (· ++ rest) hm)⟩
  | negSucc m =>
    obtain ⟨d, more, hd, hm⟩ := hdigits (m + 1)
    exact ⟨d, more ++ rest, hd, .inr (congrArg (.char '-' :: · ++ rest) hm)⟩

/-- A number begins with neither a blank nor a bracket. -/
theorem BeginsNumber.opens {t : Text} (h : BeginsNumber t) : Opens t := by
  obtain ⟨d, rest, hd, rfl | rfl⟩ := h
  · refine ⟨d, rest, rfl, ?_, ?_⟩
    · unfold isBlank
      simp only [Bool.or_eq_false_iff, decide_eq_false_iff_not]
      refine ⟨⟨⟨?_, ?_⟩, ?_⟩, ?_⟩ <;> (rintro rfl; exact absurd hd (by decide))
    · rintro rfl
      exact absurd hd (by decide)
  · exact ⟨_, _, rfl, by decide, by decide⟩

/-- The text form of a tree begins with the mark of its kind: a letter, a digit or sign, a quote or
an opening bracket. -/
theorem opens_write {j : Json} (h : j.floatFree = true) : Opens (write .unicode j) := by
  cases j with
  | null => exact ⟨_, _, rfl, by decide, by decide⟩
  | bool b => cases b <;> exact ⟨_, _, rfl, by decide, by decide⟩
  | int n =>
    have hnumber := beginsNumber_ofInt n []
    rw [List.append_nil] at hnumber
    exact hnumber.opens
  | float x => cases h
  | text t => exact ⟨_, _, rfl, by decide, by decide⟩
  | array items => exact ⟨_, _, rfl, by decide, by decide⟩
  | object members => exact ⟨_, _, rfl, by decide, by decide⟩

/-! ## Leaves -/

/-- The word for nothing is told from the others by its letters. -/
theorem readTree?_null (fuel : Nat) (rest : Text) :
    readTree? (fuel + 1) (write .unicode .null ++ rest) = some (.null, rest) := by
  rfl

/-- So are the words for the two truth values. -/
theorem readTree?_bool (fuel : Nat) (b : Bool) (rest : Text) :
    readTree? (fuel + 1) (write .unicode (.bool b) ++ rest) = some (.bool b, rest) := by
  cases b <;> rfl

/-- Behind its opening quote a text is read back. -/
theorem exists_writeText (t rest : Text) :
    ∃ body, writeText .unicode t ++ rest = .char '"' :: body ∧
      readText? (body.length + 1) body = some (t, rest) := by
  refine ⟨t.flatMap (escape .unicode) ++ .char '"' :: rest, ?_, readText?_escaped t rest ?_⟩
  · simp [writeText, Text.ofString]
  · have hescaped := length_le_escaped t
    rw [List.length_append]
    omega

/-- A text is read up to its closing quote, and what follows is left. -/
theorem readTree?_text (fuel : Nat) (t rest : Text) :
    readTree? (fuel + 1) (writeText .unicode t ++ rest) = some (.text t, rest) := by
  obtain ⟨body, hbody, hread⟩ := exists_writeText t rest
  have hquote : readTree? (fuel + 1) (.char '"' :: body) =
      (readText? (body.length + 1) body).map fun r => (.text r.1, r.2) := rfl
  rw [hbody, hquote, hread]
  rfl

/-- Where a number begins, a number is read. -/
theorem readTree?_number (fuel : Nat) {t : Text} (h : BeginsNumber t) :
    readTree? (fuel + 1) t = readNumber? t := by
  rw [readTree?, h.opens.skipBlanks_eq]
  obtain ⟨d, more, hd, ht⟩ := h
  have hother : ∀ w : Char, w.isDigit = false → CodePoint.char w ≠ d := by
    rintro w hw rfl
    exact absurd (hw.symm.trans hd) (by decide)
  -- no quote, no bracket, and no word: these all begin with something else
  rcases ht with rfl | rfl
  · split
    iterate 3
      next heq => exact absurd (List.cons.inj heq).1.symm (hother _ (by decide))
    simp [List.findSome?, Text.dropPrefix?, Text.ofString, hother]
  · split
    iterate 3
      next heq => exact absurd (List.cons.inj heq).1 (by decide)
    simp [List.findSome?, Text.dropPrefix?, Text.ofString, hother]

/-- An integer is read as far as its digits go, so what follows must not be a part of a number. -/
theorem readTree?_ofInt (fuel : Nat) (n : Int) {rest : Text} (hrest : Ends rest) :
    readTree? (fuel + 1) (Text.ofInt n ++ rest) = some (.int n, rest) :=
  (readTree?_number fuel (beginsNumber_ofInt n rest)).trans (readNumber?_ofInt n hrest)

/-! ## Arrays and objects -/

/-- A blank in front of a tree is passed over. -/
theorem readTree?_blank (fuel : Nat) (t : Text) :
    readTree? fuel (.char ' ' :: t) = readTree? fuel t := by
  cases fuel <;> rfl

/-- A blank in front of items is passed over. -/
theorem readItems?_blank (fuel : Nat) (t : Text) :
    readItems? fuel (.char ' ' :: t) = readItems? fuel t := by
  cases fuel with
  | zero => rfl
  | succ fuel => rw [readItems?, readItems?, readTree?_blank]

/-- A blank in front of members is passed over. -/
theorem readMembers?_blank (fuel : Nat) (t : Text) :
    readMembers? fuel (.char ' ' :: t) = readMembers? fuel t := by
  cases fuel <;> rfl

/-- Behind an opening bracket the items are read, unless it is closed at once. -/
theorem readTree?_array (fuel : Nat) {t : Text} (h : Opens t) :
    readTree? (fuel + 1) (.char '[' :: t) =
      (readItems? fuel t).map fun (items, after) => (.array items, after) := by
  obtain ⟨c, more, rfl, hblank, hbracket⟩ := h
  have hopening : isBlank (.char '[') = false := by decide
  rw [readTree?, skipBlanks_cons hopening]
  split
  · next heq => exact absurd (List.cons.inj heq).1 (by decide)
  · next heq =>
    obtain ⟨-, rfl⟩ := List.cons.inj heq
    rw [skipBlanks_cons hblank]
    split
    · next heq => exact absurd (List.cons.inj heq).1 hbracket
    · rfl
  · next heq => exact absurd (List.cons.inj heq).1 (by decide)
  · next hother _ => exact absurd rfl (hother _)

/-- Behind an opening brace a quote begins the members. -/
theorem readTree?_object (fuel : Nat) (t : Text) :
    readTree? (fuel + 1) (.char '\x7b' :: .char '"' :: t) =
      (readMembers? fuel (.char '"' :: t)).map fun (members, after) => (.object members, after) :=
  rfl

section Step

variable {fuel : Nat} {t rest : Text} {j : Json}

/-- An item in front of a closing bracket is the last one. -/
theorem readItems?_last (h : readTree? fuel t = some (j, .char ']' :: rest)) :
    readItems? (fuel + 1) t = some ([j], rest) := by
  rw [readItems?, h]
  rfl

/-- An item in front of a comma has others behind it. -/
theorem readItems?_next (h : readTree? fuel t = some (j, .char ',' :: .char ' ' :: rest)) :
    readItems? (fuel + 1) t =
      (readItems? fuel rest).map fun (items, after) => (j :: items, after) := by
  rw [readItems?, h, ← readItems?_blank, Option.map_eq_bind]
  rfl

/-- A member in front of a closing brace is the last one. -/
theorem readMembers?_last (name : Text) (h : readTree? fuel t = some (j, .char '\x7d' :: rest)) :
    readMembers? (fuel + 1) (writeText .unicode name ++ (": " ++ t)) = some ([(name, j)], rest) := by
  -- the name up to its closing quote, then the tree behind the colon
  obtain ⟨body, hbody, hread⟩ := exists_writeText name (": " ++ t)
  rw [hbody, readMembers?]
  show (readText? (body.length + 1) body).bind _ = _
  rw [hread]
  rw [← readTree?_blank] at h
  show (readTree? fuel (.char ' ' :: t)).bind _ = _
  rw [h]
  rfl

/-- A member in front of a comma has others behind it. -/
theorem readMembers?_next (name : Text)
    (h : readTree? fuel t = some (j, .char ',' :: .char ' ' :: rest)) :
    readMembers? (fuel + 1) (writeText .unicode name ++ (": " ++ t)) =
      (readMembers? fuel rest).map fun (members, after) => ((name, j) :: members, after) := by
  obtain ⟨body, hbody, hread⟩ := exists_writeText name (": " ++ t)
  rw [hbody, readMembers?]
  show (readText? (body.length + 1) body).bind _ = _
  rw [hread]
  rw [← readTree?_blank] at h
  show (readTree? fuel (.char ' ' :: t)).bind _ = _
  rw [h, ← readMembers?_blank, Option.map_eq_bind]
  rfl

end Step

/-! ## Trees -/

/-- A number may end where the text ends. -/
theorem ends_nil : Ends [] := by
  rintro c ⟨⟩

/-- A number may end at the bracket of the array that holds it. -/
theorem ends_bracket (t : Text) : Ends (.char ']' :: t) := by
  rintro c ⟨⟩
  exact .inr (.inl rfl)

/-- A number may end at the brace of the object that holds it. -/
theorem ends_brace (t : Text) : Ends (.char '\x7d' :: t) := by
  rintro c ⟨⟩
  exact .inr (.inr rfl)

/-- A number may end at the comma before the next tree. -/
theorem ends_comma (t : Text) : Ends (.char ',' :: t) := by
  rintro c ⟨⟩
  exact .inl rfl

/-- The first of several parts stands in front of a comma and a blank. -/
theorem join_cons (part next : Text) (parts : List Text) :
    Text.join ", " (part :: next :: parts) =
      part ++ .char ',' :: .char ' ' :: Text.join ", " (next :: parts) :=
  List.intercalate_cons_cons.trans (List.append_assoc ..)

/-- A single part has no comma. -/
theorem join_singleton (part : Text) : Text.join ", " [part] = part :=
  List.intercalate_singleton

/-- Joined parts begin as the first of them does. -/
theorem Opens.join {part : Text} (h : Opens part) (parts : List Text) :
    Opens (Text.join ", " (part :: parts)) := by
  cases parts with
  | nil => rwa [join_singleton]
  | cons next parts =>
    rw [join_cons]
    exact h.append _

theorem write_array (items : List Json) :
    write .unicode (.array items) =
      .char '[' :: (Text.join ", " (writeItems .unicode items) ++ [.char ']']) := rfl

theorem write_object (members : List (Text × Json)) :
    write .unicode (.object members) =
      .char '\x7b' :: (Text.join ", " (writeMembers .unicode members) ++ [.char '\x7d']) := rfl

/-- The first item of an array stands in front of a comma, like any other part. -/
theorem join_items (j k : Json) (items : List Json) :
    Text.join ", " (writeItems .unicode (j :: k :: items)) =
      write .unicode j ++
        .char ',' :: .char ' ' :: Text.join ", " (writeItems .unicode (k :: items)) :=
  join_cons ..

/-- The first member of an object is its name, a colon, its tree and a comma. -/
theorem join_members (name : Text) (j : Json) (m : Text × Json) (members : List (Text × Json)) :
    Text.join ", " (writeMembers .unicode ((name, j) :: m :: members)) =
      writeText .unicode name ++ (": " ++ (write .unicode j ++
        .char ',' :: .char ' ' :: Text.join ", " (writeMembers .unicode (m :: members)))) := by
  refine (join_cons (writeText .unicode name ++ ": " ++ write .unicode j) _ _).trans ?_
  rw [List.append_assoc, List.append_assoc]
  rfl

/-- Members begin with the quote of a name. -/
theorem exists_join_members (m : Text × Json) (members : List (Text × Json)) :
    ∃ more, Text.join ", " (writeMembers .unicode (m :: members)) = .char '"' :: more := by
  rw [writeMembers]
  cases writeMembers .unicode members with
  | nil =>
    rw [join_singleton]
    exact ⟨_, rfl⟩
  | cons next parts =>
    rw [join_cons]
    exact ⟨_, rfl⟩

mutual

/-- A tree is read back where its text form stands, if the bound on the depth is not below the length
of that form. -/
theorem readTree?_write (j : Json) {fuel : Nat} {rest : Text} (h : j.floatFree = true)
    (hfuel : (write .unicode j).length ≤ fuel) (hrest : Ends rest) :
    readTree? fuel (write .unicode j ++ rest) = some (j, rest) := by
  -- the text form is not empty, so the bound allows for one step
  have hpositive := (opens_write h).length_pos
  obtain ⟨fuel, rfl⟩ := Nat.exists_eq_add_one_of_ne_zero (n := fuel) (by omega)
  cases j with
  | null => exact readTree?_null fuel rest
  | bool b => exact readTree?_bool fuel b rest
  | int n => exact readTree?_ofInt fuel n hrest
  | float x => cases h
  | text t => exact readTree?_text fuel t rest
  | array items =>
    cases items with
    | nil => rfl
    | cons j items =>
      have hj : j.floatFree = true := (Bool.and_eq_true_iff.mp h).1
      have hopens := ((opens_write hj).join (writeItems .unicode items)).append (.char ']' :: rest)
      rw [write_array, List.length_cons, List.length_append, List.length_singleton] at hfuel
      rw [write_array, List.cons_append, List.append_assoc, List.singleton_append]
      -- the brackets are longer than the step that the bound takes for them
      refine (readTree?_array fuel hopens).trans ?_
      rw [← writeItems, readItems?_write (j :: items) (List.cons_ne_nil _ _) h (by omega)]
      rfl
  | object members =>
    cases members with
    | nil => rfl
    | cons m members =>
      rw [write_object, List.length_cons, List.length_append, List.length_singleton] at hfuel
      have hread : readMembers? fuel
          (Text.join ", " (writeMembers .unicode (m :: members)) ++ .char '\x7d' :: rest) =
            some (m :: members, rest) :=
        readMembers?_write (m :: members) (List.cons_ne_nil _ _) h (by omega)
      obtain ⟨more, hquote⟩ := exists_join_members m members
      rw [hquote, List.cons_append] at hread
      rw [write_object, hquote, List.cons_append, List.cons_append, List.cons_append,
        List.append_assoc, List.singleton_append, readTree?_object, hread]
      rfl

/-- So are the items of an array in front of its closing bracket. -/
theorem readItems?_write (items : List Json) {fuel : Nat} {rest : Text} (hne : items ≠ [])
    (h : itemsFloatFree items = true)
    (hfuel : (Text.join ", " (writeItems .unicode items)).length < fuel) :
    readItems? fuel (Text.join ", " (writeItems .unicode items) ++ .char ']' :: rest) =
      some (items, rest) := by
  obtain ⟨fuel, rfl⟩ := Nat.exists_eq_add_one_of_ne_zero (n := fuel) (by omega)
  match items with
  | [] => exact absurd rfl hne
  | [j] =>
    have hj : j.floatFree = true := (Bool.and_eq_true_iff.mp h).1
    rw [writeItems, writeItems, join_singleton] at hfuel ⊢
    exact readItems?_last (readTree?_write j hj (by omega) (ends_bracket rest))
  | j :: k :: items =>
    obtain ⟨hj, hitems⟩ := Bool.and_eq_true_iff.mp h
    rw [join_items, List.length_append, List.length_cons, List.length_cons] at hfuel
    rw [join_items, List.append_assoc, List.cons_append, List.cons_append,
      readItems?_next (readTree?_write j hj (by omega) (ends_comma _)),
      readItems?_write (k :: items) (List.cons_ne_nil _ _) hitems (by omega)]
    rfl

/-- And the members of an object in front of its closing brace. -/
theorem readMembers?_write (members : List (Text × Json)) {fuel : Nat} {rest : Text}
    (hne : members ≠ []) (h : membersFloatFree members = true)
    (hfuel : (Text.join ", " (writeMembers .unicode members)).length < fuel) :
    readMembers? fuel (Text.join ", " (writeMembers .unicode members) ++ .char '\x7d' :: rest) =
      some (members, rest) := by
  obtain ⟨fuel, rfl⟩ := Nat.exists_eq_add_one_of_ne_zero (n := fuel) (by omega)
  match members with
  | [] => exact absurd rfl hne
  | [(name, j)] =>
    have hj : j.floatFree = true := (Bool.and_eq_true_iff.mp h).1
    rw [writeMembers, writeMembers, join_singleton] at hfuel ⊢
    rw [List.length_append] at hfuel
    rw [List.append_assoc, List.append_assoc]
    exact readMembers?_last name (readTree?_write j hj (by omega) (ends_brace rest))
  | (name, j) :: m :: members =>
    obtain ⟨hj, hmembers⟩ := Bool.and_eq_true_iff.mp h
    rw [join_members, List.length_append, List.length_append, List.length_append, List.length_cons,
      List.length_cons] at hfuel
    rw [join_members, List.append_assoc, List.append_assoc, List.append_assoc, List.cons_append,
      List.cons_append,
      readMembers?_next name (readTree?_write j hj (by omega) (ends_comma _)),
      readMembers?_write (m :: members) (List.cons_ne_nil _ _) hmembers (by omega)]
    rfl

end

/-- A tree without floating-point numbers is read back from its text form. -/
theorem read?_write {j : Json} (h : j.floatFree = true) : read? (write .unicode j) = some j := by
  have hread : readTree? ((write .unicode j).length + 1) (write .unicode j ++ []) = some (j, []) :=
    readTree?_write j h (Nat.le_succ _) ends_nil
  rw [List.append_nil] at hread
  rw [read?, hread]
  rfl

/-! ## One line -/

/-- Commas and blanks bring no control character in between. -/
theorem hasNoControl_join {parts : List Text} (h : ∀ part ∈ parts, part.HasNoControl) :
    (Text.join ", " parts).HasNoControl := by
  cases parts with
  | nil => exact .nil
  | cons part parts =>
    obtain ⟨hpart, hparts⟩ := List.forall_mem_cons.mp h
    induction parts generalizing part with
    | nil => rwa [join_singleton]
    | cons next parts ih =>
      obtain ⟨hnext, hothers⟩ := List.forall_mem_cons.mp hparts
      rw [join_cons]
      exact hpart.append (.cons (by decide) (.cons (by decide) (ih next hparts hnext hothers)))

mutual

/-- The text form of a tree without floating-point numbers holds no control character. -/
theorem hasNoControl_write (j : Json) (h : j.floatFree = true) :
    (write .unicode j).HasNoControl := by
  cases j with
  | null => decide
  | bool b => cases b <;> decide
  | int n => exact .ofInt n
  | float x => cases h
  | text t => exact hasNoControl_writeText t
  | array items =>
    have hitems := hasNoControl_join (hasNoControl_writeItems items h)
    exact .cons (by decide) (hitems.append (.cons (by decide) .nil))
  | object members =>
    have hmembers := hasNoControl_join (hasNoControl_writeMembers members h)
    exact .cons (by decide) (hmembers.append (.cons (by decide) .nil))

/-- Nor does the text form of an item. -/
theorem hasNoControl_writeItems (items : List Json) (h : itemsFloatFree items = true) :
    ∀ part ∈ writeItems .unicode items, part.HasNoControl := by
  cases items with
  | nil => exact List.forall_mem_nil _
  | cons j items =>
    obtain ⟨hj, hitems⟩ := Bool.and_eq_true_iff.mp h
    exact List.forall_mem_cons.mpr ⟨hasNoControl_write j hj, hasNoControl_writeItems items hitems⟩

/-- Nor does that of a member: its name, a colon and its tree. -/
theorem hasNoControl_writeMembers (members : List (Text × Json))
    (h : membersFloatFree members = true) :
    ∀ part ∈ writeMembers .unicode members, part.HasNoControl := by
  cases members with
  | nil => exact List.forall_mem_nil _
  | cons m members =>
    obtain ⟨hj, hmembers⟩ := Bool.and_eq_true_iff.mp h
    have hcolon : (": " : Text).HasNoControl := by decide
    exact List.forall_mem_cons.mpr
      ⟨((hasNoControl_writeText m.1).append hcolon).append (hasNoControl_write m.2 hj),
        hasNoControl_writeMembers members hmembers⟩

end

end Json

end MailFilter
