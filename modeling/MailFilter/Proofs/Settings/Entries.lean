import Mathlib
import MailFilter.Proofs.Settings.Declared

/-!
# The entries of a section

A section is read entry by entry, and some entries change what the later ones do: one may replace
all that is known, and a setting that is not known any more cannot be given. What a section ends up
with can still be told from the list of its entries.

- `Section.entryFault?`: what is wrong with an entry, whatever was read before it.
- `Section.given?`: the value that the entries give under a name.
- `Section.loses`: whether they take away a name that is not always known.
- `Section.enterAll_eq`: the first wrong entry ends the reading.
- `Settings.Part.get?_read`: a setting has the value that the entries give, or its usual value.
- `Settings.Part.get?_accounts_read`: the switches of accounts are the one setting that can be lost.
-/

namespace MailFilter

namespace Section

variable {s : Section} {name : Text} {entries : List (Value × Value)}

/-! ## Single entries -/

/-- What is wrong with an entry: its name is no text, or stands for what an entry cannot replace, or
the table of the section is to be replaced by what is no mapping. -/
def entryFault? (entry : Value × Value) : Option Fault :=
  match entry.1 with
  | .text name =>
    if name = kindName then some .wrongKind
    else if name = watchersName then some .noOperation
    else if name = tableName then
      match entry.2 with
      | .map _ => none
      | _ => some .wrongKind
    else none
  | _ => some .wrongKind

/-- The section after an entry with which nothing is wrong. -/
def entered (s : Section) (entry : Value × Value) : Section :=
  match entry.1 with
  | .text name =>
    if name = tableName then
      match entry.2 with
      | .map table => { s with own := textEntries table }
      | _ => s
    else if s.knows name then s.put name entry.2
    else s
  | _ => s

/-- An entry is refused for itself alone, whatever the section has become. -/
theorem enter_eq (s : Section) (entry : Value × Value) :
    s.enter entry.1 entry.2 = unlessBarred (entryFault? entry) (.ok (s.entered entry)) := by
  obtain ⟨key, v⟩ := entry
  cases key with
  | text name =>
    show (if name = kindName then _ else _) = unlessBarred (if name = kindName then _ else _) _
    by_cases hkind : name = kindName
    · rw [if_pos hkind, if_pos hkind]
      rfl
    by_cases hwatchers : name = watchersName
    · rw [if_neg hkind, if_pos hwatchers, if_neg hkind, if_pos hwatchers]
      rfl
    rw [if_neg hkind, if_neg hwatchers, if_neg hkind, if_neg hwatchers]
    by_cases htable : name = tableName
    · rw [if_pos htable, if_pos htable, entered]
      dsimp only
      rw [if_pos htable]
      cases v <;> rfl
    · rw [if_neg htable, if_neg htable, entered]
      dsimp only
      rw [if_neg htable]
      rfl
  | _ => rfl

/-- The first wrong entry ends the reading; without one all entries are taken over. -/
theorem enterAll_eq (s : Section) (entries : List (Value × Value)) :
    s.enterAll entries =
      unlessBarred (entries.findSome? entryFault?) (.ok (entries.foldl entered s)) := by
  induction entries generalizing s with
  | nil => rfl
  | cons entry rest ih =>
    show (s.enter entry.1 entry.2 >>= fun s => s.enterAll rest) = _
    rw [enter_eq, List.findSome?_cons]
    cases entryFault? entry with
    | some fault => rfl
    | none => exact ih (s.entered entry)

/-! ## What is known under a name -/

/-- Whether a section knows a name whatever its table holds. -/
def alwaysKnows (s : Section) (name : Text) : Bool :=
  (s.common.get? name).isSome || s.operations.contains name

/-- What is known under a name after one more entry, if `always` says whether the name is known in
any case. -/
def noted (always : Bool) (name : Text) (known : Option Value) (entry : Value × Value) :
    Option Value :=
  if entry.1.isText tableName then
    match entry.2 with
    | .map table => Value.lookupText? name table
    | _ => known
  else if entry.1.isText name && (always || known.isSome) then some entry.2
  else known

/-- The value that the entries of a section give under a name. -/
def given? (name : Text) (entries : List (Value × Value)) : Option Value :=
  entries.foldl (noted true name) none

/-- The last entry is noted behind the others. -/
theorem given?_concat (name : Text) (entries : List (Value × Value)) (entry : Value × Value) :
    given? name (entries ++ [entry]) = noted true name (given? name entries) entry :=
  List.foldl_concat ..

/-- In a table the first entry under a name counts. -/
theorem get?_textEntries (name : Text) (entries : List (Value × Value)) :
    (textEntries entries).get? name = Value.lookupText? name entries := by
  induction entries with
  | nil => rfl
  | cons entry rest ih =>
    obtain ⟨key, v⟩ := entry
    cases key with
    | text other =>
      show (if other = name then some v else (textEntries rest).get? name) =
        if decide (other = name) = true then some v else Value.lookupText? name rest
      rw [ih]
      simp only [decide_eq_true_eq]
    | _ => exact ih

/-- A name is known by the table of a section, or in any case. -/
theorem knows_eq (s : Section) (name : Text) :
    s.knows name = ((s.own.get? name).isSome || s.alwaysKnows name) := by
  rw [knows, get?, alwaysKnows]
  cases s.own.get? name <;> rfl

/-- Entries do not change what is known in any case. -/
@[simp] theorem alwaysKnows_entered (s : Section) (entry : Value × Value) (name : Text) :
    (s.entered entry).alwaysKnows name = s.alwaysKnows name := by
  unfold entered
  split
  · split
    · split <;> rfl
    · split <;> rfl
  · rfl

/-- Entries do not change what all sections of a kind have in common. -/
@[simp] theorem common_entered (s : Section) (entry : Value × Value) :
    (s.entered entry).common = s.common := by
  unfold entered
  split
  · split
    · split <;> rfl
    · split <;> rfl
  · rfl

/-- What a table holds under a name after an entry depends on what it held there, and on nothing
else of it. -/
theorem own_entered (s : Section) (entry : Value × Value) (hname : name ≠ tableName) :
    (s.entered entry).own.get? name =
      noted (s.alwaysKnows name) name (s.own.get? name) entry := by
  obtain ⟨key, v⟩ := entry
  cases key with
  | text other =>
    unfold entered noted
    dsimp only
    -- the entry replaces the table, is that of the name, or says nothing of it
    by_cases htable : other = tableName
    · have hkey : (Value.text other).isText tableName = true := decide_eq_true htable
      rw [if_pos htable, if_pos hkey]
      cases v with
      | map table => exact get?_textEntries name table
      | _ => rfl
    · have hkey : ¬(Value.text other).isText tableName = true := fun h => htable (of_decide_eq_true h)
      rw [if_neg htable, if_neg hkey]
      by_cases hsame : other = name
      · subst hsame
        have hsame : (Value.text other).isText other = true := decide_eq_true rfl
        rw [knows_eq, hsame, Bool.or_comm, Bool.true_and]
        split
        · show (s.own.put other v).get? other = _
          rw [Assoc.get?_put, if_pos rfl]
        · rfl
      · have hother : (Value.text other).isText name = false := decide_eq_false hsame
        rw [hother, Bool.false_and, if_neg Bool.false_ne_true]
        split
        · show (s.own.put other v).get? name = _
          rw [Assoc.get?_put, if_neg hsame]
        · rfl
  | _ => rfl

/-- So it is after several entries. -/
theorem common_foldl_entered (s : Section) (entries : List (Value × Value)) :
    (entries.foldl entered s).common = s.common := by
  induction entries generalizing s with
  | nil => rfl
  | cons entry rest ih => rw [List.foldl_cons, ih, common_entered]

/-- What a table holds under a name after several entries, from what it held there. -/
theorem own_foldl_entered (s : Section) (entries : List (Value × Value)) (hname : name ≠ tableName) :
    (entries.foldl entered s).own.get? name =
      entries.foldl (noted (s.alwaysKnows name) name) (s.own.get? name) := by
  induction entries generalizing s with
  | nil => rfl
  | cons entry rest ih =>
    rw [List.foldl_cons, List.foldl_cons, ih, alwaysKnows_entered, own_entered s entry hname]

/-! ## Usual values -/

/-- Of a name that is always known, only the usual value can be wiped out. -/
theorem getD_foldl_noted (name : Text) (v : Value) (entries : List (Value × Value))
    {known given : Option Value} (h : known.getD v = given.getD v) :
    (entries.foldl (noted true name) known).getD v =
      (entries.foldl (noted true name) given).getD v := by
  induction entries generalizing known given with
  | nil => exact h
  | cons entry rest ih =>
    rw [List.foldl_cons, List.foldl_cons]
    refine ih ?_
    unfold noted
    split
    · split
      · rfl
      · exact h
    · split
      · next hmatch => rw [if_pos (by simpa using hmatch)]
      · next hmatch => rwa [if_neg (by simpa using hmatch)]

/-- The table of an entry that replaces the table of the section. -/
def tableOf? (entry : Value × Value) : Option (List (Value × Value)) :=
  if entry.1.isText tableName then
    match entry.2 with
    | .map table => some table
    | _ => none
  else none

/-- Whether a name that is not always known is lost: the last table that the entries put in place of
the one of the section does not have it. -/
def loses (name : Text) (entries : List (Value × Value)) : Bool :=
  (entries.reverse.findSome? tableOf?).any fun table => (Value.lookupText? name table).isNone

/-- The last entry decides if it is a table. -/
theorem loses_concat (name : Text) (entries : List (Value × Value)) (entry : Value × Value) :
    loses name (entries ++ [entry]) =
      ((tableOf? entry).map fun table => (Value.lookupText? name table).isNone).getD
        (loses name entries) := by
  unfold loses
  rw [List.reverse_concat, List.findSome?_cons]
  cases tableOf? entry with
  | some table => rfl
  | none => rfl

/-- A name that is not always known is lost, or has the value that the entries give or its usual
one. -/
theorem foldl_noted_false (name : Text) (v : Value) (entries : List (Value × Value)) :
    entries.foldl (noted false name) (some v) =
      if loses name entries then none else some ((given? name entries).getD v) := by
  -- What an entry does depends on what came before it: the induction adds entries at the end.
  induction entries using List.reverseRecOn with
  | nil => rfl
  | append_singleton entries entry ih =>
    rw [List.foldl_concat, ih, loses_concat, given?_concat]
    unfold noted tableOf?
    by_cases htable : entry.1.isText tableName = true
    · rw [if_pos htable, if_pos htable, if_pos htable]
      cases entry.2 with
      | map table =>
        cases hfound : Value.lookupText? name table with
        | none => simp [hfound]
        | some found => simp [hfound]
      | _ => rfl
    · rw [if_neg htable, if_neg htable, if_neg htable]
      dsimp only [Option.map_none, Option.getD_none]
      cases hlost : loses name entries with
      | true => simp
      | false =>
        by_cases hname : entry.1.isText name = true
        · simp [hname]
        · simp [hname]

/-! ## Entries without a table -/

/-- Without a table among the entries, what they give under a name is the value of one of them. -/
theorem mem_of_given? (htables : ∀ entry ∈ entries, entry.1.isText tableName = false) {v : Value}
    (h : given? name entries = some v) : (.text name, v) ∈ entries := by
  -- The last entry of the name counts: the induction adds entries at the end.
  induction entries using List.reverseRecOn with
  | nil => cases h
  | append_singleton entries entry ih =>
    have hbefore := fun other hother => htables other (List.mem_append_left [entry] hother)
    have hentry := htables entry (List.mem_append_right entries (List.mem_singleton_self entry))
    rw [given?_concat, noted, hentry, if_neg Bool.false_ne_true, Bool.true_or, Bool.and_true] at h
    split at h
    · next hname =>
      obtain ⟨key, value⟩ := entry
      obtain rfl : value = v := Option.some.inj h
      obtain rfl : key = .text name := Value.isText_eq_true_iff.mp hname
      exact List.mem_append_right entries (List.mem_singleton_self _)
    · exact List.mem_append_left [entry] (ih hbefore h)

/-- Without a table nothing is lost. -/
theorem loses_eq_false (htables : ∀ entry ∈ entries, entry.1.isText tableName = false) :
    loses name entries = false := by
  have hnone : entries.reverse.findSome? tableOf? = none := by
    refine List.findSome?_eq_none_iff.mpr fun entry hentry => ?_
    rw [tableOf?, htables entry (List.mem_reverse.mp hentry), if_neg Bool.false_ne_true]
  rw [loses, hnone]
  rfl

end Section

namespace Settings.Part

variable {p : Part} {name : Text} {document : Value}

/-- The entries of a section of a document. -/
def entries (p : Part) (document : Value) : List (Value × Value) :=
  match document.field? p.name with
  | some (.map entries) => entries
  | _ => []

/-- The section after its entries have been read. -/
def read (p : Part) (document : Value) : Section :=
  (p.entries document).foldl Section.entered p.initial

/-- What is always known under a name that a section begins with is what the entries give, or what it
began with. -/
theorem get?_read (hname : name ≠ Section.tableName)
    (halways : p.initial.alwaysKnows name = true)
    (hcommon : p.initial.own.get? name = p.initial.common.get? name) :
    (p.read document).get? name =
      (Section.given? name (p.entries document)).or (p.initial.common.get? name) := by
  have hown : (p.read document).own.get? name =
      (p.entries document).foldl (Section.noted true name) (p.initial.common.get? name) := by
    rw [read, Section.own_foldl_entered p.initial _ hname, halways, hcommon]
  rw [Section.get?, hown, read, Section.common_foldl_entered]
  -- what was known at first can be wiped out only if it is common, and then it is the same again
  cases hv : p.initial.common.get? name with
  | none =>
    show Option.orElse (Section.given? name (p.entries document)) _ = _
    cases Section.given? name (p.entries document) <;> rfl
  | some v =>
    -- A value that has been wiped out is the common one again.
    have hsame : ((p.entries document).foldl (Section.noted true name) (some v)).getD v =
        (Section.given? name (p.entries document)).getD v :=
      Section.getD_foldl_noted name v (p.entries document) rfl
    generalize Section.given? name (p.entries document) = given at hsame ⊢
    generalize (p.entries document).foldl (Section.noted true name) (some v) = known at hsame ⊢
    cases known <;> cases given <;> simp_all

/-- The switches of accounts are what the entries give, or none, unless they are lost. -/
theorem get?_accounts_read (document : Value) :
    (vars.read document).get? "accounts" =
      if Section.loses "accounts" (vars.entries document) then none
      else some ((Section.given? "accounts" (vars.entries document)).getD (.map [])) := by
  have halways : vars.initial.alwaysKnows "accounts" = false := rfl
  have hcommon : (vars.read document).common.get? ("accounts" : Text) = none := by
    rw [read, Section.common_foldl_entered]
    rfl
  have hown : (vars.read document).own.get? ("accounts" : Text) =
      (vars.entries document).foldl (Section.noted false "accounts") (some (.map [])) := by
    rw [read, Section.own_foldl_entered vars.initial _ (by decide), halways]
    rfl
  rw [Section.get?, hown, hcommon, Section.foldl_noted_false]
  split <;> rfl

end Settings.Part

end MailFilter
