import MailFilter.Proofs.Script.Reading
import MailFilter.Proofs.Value.Within
import Mathlib.Logic.Relation

/-!
# Where the reading of a script fails

A script consists of blocks, commands, branches and tests, each with a reader of its own. A reader
that calls others fails only where one of them does, at the first one that does. So every failure
has one place: a part without inner parts, before which everything has been read.

- `Script.Part`, `Part.inner`: what has a reader of its own, and what it consists of.
- `Part.check`: reads a part, for its failure alone.
- `Part.Next`: the inner part that is read once those before it have been read.
- `Part.check_eq_error_iff`: a part fails as that part without inner parts does in which reading
  ends.
-/

namespace MailFilter

open Relation

namespace Script

/-- What has a reader of its own. -/
inductive Part where
  | block (v : Value)
  | command (v : Value)
  | branch (what : Text) (v : Value)
  | branches (v : Value)
  | test (v : Value)

namespace Part

/-- The value that a part is read from. -/
def value : Part → Value
  | .block v | .command v | .branch _ v | .branches v | .test v => v

/-- Reads a part, for its failure alone. -/
def check : Part → Except Failure Unit
  | .block v => (Command.blockOfValue v).map fun _ => ()
  | .command v => (Command.ofValue v).map fun _ => ()
  | .branch what v => (Command.branchOfValue what v).map fun _ => ()
  | .branches v => (Command.branchesOfValue v).map fun _ => ()
  | .test v => (Test.ofValue v).map fun _ => ()

/-- The parts that a part consists of, in the order in which they are read. -/
def inner : Part → List Part
  | .block (.list items) => items.map .command
  | .command v =>
    match v.keywordAndBody "command" with
    | .ok (keyword, body) =>
      if keyword = "if" then
        .branch "if" body ::
          ((body.field? "elsif").toList.map .branches ++ (body.field? "else").toList.map .block)
      else []
    | .error _ => []
  | .branch _ v =>
    match v.field? "test" with
    | some operand => .test operand :: (v.field? "then").toList.map .block
    | none => []
  | .branches (.list items) => items.map (.branch "elsif")
  | .branches (.pair first second) => [.branch "elsif" first, .branch "elsif" second]
  | .test v =>
    match v.keywordAndBody "test" with
    | .ok (keyword, body) =>
      if keyword = "allof" || keyword = "anyof" then
        match body with
        | .list tests => tests.map .test
        | _ => []
      else if keyword = "not" then [.test body]
      else []
    | .error _ => []
  | _ => []

/-- A choice consists of its first branch, further branches and the block for what remains; other
commands have no parts. -/
theorem inner_command {v body : Value} {keyword : Text}
    (h : v.keywordAndBody "command" = .ok (keyword, body)) :
    (command v).inner =
      if keyword = "if" then
        .branch "if" body ::
          ((body.field? "elsif").toList.map .branches ++ (body.field? "else").toList.map .block)
      else [] := by
  rw [inner, h]

/-- A branch consists of its test and its block. -/
theorem inner_branch {what : Text} {v operand : Value} (h : v.field? "test" = some operand) :
    (branch what v).inner = .test operand :: (v.field? "then").toList.map .block := by
  rw [inner, h]

/-- A list of tests consists of these, a negation of the test that it negates. -/
theorem inner_test {v body : Value} {keyword : Text}
    (h : v.keywordAndBody "test" = .ok (keyword, body)) :
    (test v).inner =
      if keyword = "allof" || keyword = "anyof" then
        match body with
        | .list tests => tests.map .test
        | _ => []
      else if keyword = "not" then [.test body]
      else [] := by
  rw [inner, h]

/-- A part is read from a value inside that of the part it belongs to. -/
theorem within_of_mem_inner {p q : Part} (h : q ∈ p.inner) : q.value.Within p.value := by
  -- by the kind of the outer part: the value of the inner one is an item of a list, an entry of a
  -- mapping, or what an entry holds
  unfold inner at h
  split at h
  · next items =>
    obtain ⟨v, hv, rfl⟩ := List.mem_map.mp h
    exact .item hv
  · next v =>
    split at h
    · next keyword body hbody =>
      split at h
      · rcases List.mem_cons.mp h with rfl | h
        · exact .body hbody
        · rcases List.mem_append.mp h with h | h
          · obtain ⟨w, hw, rfl⟩ := List.mem_map.mp h
            exact .trans (.field (Option.mem_toList.mp hw)) (.body hbody)
          · obtain ⟨w, hw, rfl⟩ := List.mem_map.mp h
            exact .trans (.field (Option.mem_toList.mp hw)) (.body hbody)
      · cases h
    · cases h
  · next what v =>
    split at h
    · next test htest =>
      rcases List.mem_cons.mp h with rfl | h
      · exact .field htest
      · obtain ⟨w, hw, rfl⟩ := List.mem_map.mp h
        exact .field (Option.mem_toList.mp hw)
    · cases h
  · obtain ⟨v, hv, rfl⟩ := List.mem_map.mp h
    exact .item hv
  · rcases List.mem_cons.mp h with rfl | h
    · exact .first
    · cases List.mem_singleton.mp h
      exact .second
  · next v =>
    split at h
    · next keyword body hbody =>
      split at h
      · split at h
        · obtain ⟨v, hv, rfl⟩ := List.mem_map.mp h
          exact .trans (.item hv) (.body hbody)
        · cases h
      · split at h
        · cases List.mem_singleton.mp h
          exact .body hbody
        · cases h
    · cases h
  · cases h

/-- Reads parts one after another, for the first failure alone. -/
def checkAll (parts : List Part) : Except Failure Unit :=
  forM parts check

/-- Parts are read in order. -/
theorem checkAll_cons (p : Part) (parts : List Part) :
    checkAll (p :: parts) = p.check >>= fun _ => checkAll parts :=
  List.forM_cons

/-- Further parts are read once those before them have been read. -/
theorem checkAll_append (before after : List Part) :
    checkAll (before ++ after) = checkAll before >>= fun _ => checkAll after :=
  List.forM_append

/-- Parts of one kind are read as the list of what they are read from. -/
theorem checkAll_map {α β : Type} {part : α → Part} {read : α → Except Failure β}
    (h : ∀ a, (part a).check = (read a).map fun _ => ()) :
    ∀ as : List α, checkAll (as.map part) = (as.mapM read).map fun _ => ()
  | [] => rfl
  | a :: as => by
    rw [List.map_cons, checkAll_cons, List.mapM_cons, h, checkAll_map h as]
    cases read a with
    | error e => rfl
    | ok b => cases as.mapM read <;> rfl

/-- An entry that is missing has no part, and none fails. -/
theorem checkAll_entry {β : Type} {part : Value → Part} {read : Value → Except Failure (List β)}
    (h : ∀ v, (part v).check = (read v).map fun _ => ()) (entry : Option Value) :
    checkAll (entry.toList.map part) = (Command.ofEntry read entry).map fun _ => () := by
  cases entry with
  | none => rfl
  | some v =>
    show checkAll [part v] = (read v).map fun _ => ()
    rw [checkAll_cons, h]
    cases read v <;> rfl

/-- A block is read command by command. -/
theorem check_block_list (items : List Value) :
    (block (.list items)).check = checkAll (items.map command) := by
  rw [checkAll_map fun v => (rfl : (command v).check = (Command.ofValue v).map fun _ => ()), check,
    Command.blockOfValue_list]

/-- Further branches are read one by one. -/
theorem check_branches_list (items : List Value) :
    (branches (.list items)).check = checkAll (items.map (branch "elsif")) := by
  rw [checkAll_map fun v =>
      (rfl : (branch "elsif" v).check = (Command.branchOfValue "elsif" v).map fun _ => ()), check,
    Command.branchesOfValue_list]

/-- A pair of branches is read as a list of two would be. -/
theorem check_branches_pair (first second : Value) :
    (branches (.pair first second)).check =
      checkAll [branch "elsif" first, branch "elsif" second] := by
  rw [checkAll_cons, checkAll_cons, check, check, check, Command.branchesOfValue]
  cases Command.branchOfValue "elsif" first with
  | error e => rfl
  | ok b => cases Command.branchOfValue "elsif" second <;> rfl

/-- A choice is read first branch first. What is made of its parts cannot fail. -/
theorem check_command_if {v body : Value} (h : v.keywordAndBody "command" = .ok ("if", body)) :
    (command v).check = checkAll (branch "if" body ::
      ((body.field? "elsif").toList.map branches ++ (body.field? "else").toList.map block)) := by
  rw [checkAll_cons, checkAll_append,
    checkAll_entry fun v =>
      (rfl : (branches v).check = (Command.branchesOfValue v).map fun _ => ()),
    checkAll_entry fun v => (rfl : (block v).check = (Command.blockOfValue v).map fun _ => ()),
    check, check, Command.ofValue_eq, h]
  show (Command.ofKeyword "if" body).map _ = _
  rw [Command.ofKeyword_if]
  -- the first of the three readers that fails fails on both sides
  cases Command.branchOfValue "if" body with
  | error e => rfl
  | ok first =>
    cases Command.ofEntry Command.branchesOfValue (body.field? "elsif") with
    | error e => rfl
    | ok others => cases Command.ofEntry Command.blockOfValue (body.field? "else") <;> rfl

/-- A branch reads its test before its block. -/
theorem check_branch {what : Text} {v operand : Value} (h : v.field? "test" = some operand) :
    (branch what v).check = checkAll (test operand :: (v.field? "then").toList.map block) := by
  rw [checkAll_cons,
    checkAll_entry fun v => (rfl : (block v).check = (Command.blockOfValue v).map fun _ => ()),
    check, check, Command.branchOfValue_eq, h]
  show (Test.ofValue operand >>= _).map _ = _
  cases Test.ofValue operand with
  | error e => rfl
  | ok operand => cases Command.ofEntry Command.blockOfValue (v.field? "then") <;> rfl

/-- A test other than a bare truth value is read by its keyword. -/
theorem check_test {v body : Value} {keyword : Text}
    (h : v.keywordAndBody "test" = .ok (keyword, body)) :
    (test v).check = (Test.ofKeyword keyword body).map fun _ => () := by
  have hv : ∀ b, v ≠ .bool b := by
    rintro b rfl
    cases h
  rw [check, Test.ofValue_eq hv, h]
  rfl

/-- Whether all or any of its tests count, a list reads all of them. -/
theorem check_test_list {v : Value} {tests : List Value} {keyword : Text}
    (hkeyword : keyword = "allof" ∨ keyword = "anyof")
    (h : v.keywordAndBody "test" = .ok (keyword, .list tests)) :
    (test v).check = checkAll (tests.map test) := by
  rw [checkAll_map fun v => (rfl : (test v).check = (Test.ofValue v).map fun _ => ()), check_test h]
  rcases hkeyword with rfl | rfl
  · show ((tests.mapM Test.ofValue).map Test.allOf).map _ = _
    cases tests.mapM Test.ofValue <;> rfl
  · show ((tests.mapM Test.ofValue).map Test.anyOf).map _ = _
    cases tests.mapM Test.ofValue <;> rfl

/-- A negation fails as the test that it negates. -/
theorem check_test_not {v body : Value} (h : v.keywordAndBody "test" = .ok ("not", body)) :
    (test v).check = checkAll [test body] := by
  rw [checkAll_cons, check_test h]
  show ((Test.ofValue body).map Test.negation).map _ = (Test.ofValue body).map _ >>= _
  cases Test.ofValue body <;> rfl

/-- What consists of parts is read part by part, and fails for no other cause. -/
theorem check_eq_checkAll_inner {p : Part} (h : p.inner ≠ []) : p.check = checkAll p.inner := by
  -- a part of a kind that has no inner parts here contradicts `h`
  unfold inner at h ⊢
  split at h
  · exact check_block_list ..
  · next v =>
    split at h
    · next keyword body hbody =>
      split at h
      · next hkeyword =>
        subst hkeyword
        exact check_command_if hbody
      · cases h rfl
    · cases h rfl
  · next what v =>
    split at h
    · next operand htest => exact check_branch htest
    · cases h rfl
  · exact check_branches_list ..
  · exact check_branches_pair ..
  · next v =>
    split at h
    · next keyword body hbody =>
      split at h
      · next hkeyword =>
        split at h
        · rw [if_pos hkeyword]
          exact check_test_list (by simpa using hkeyword) hbody
        · cases h rfl
      · split at h
        · next hkeyword =>
          subst hkeyword
          exact check_test_not hbody
        · cases h rfl
    · cases h rfl
  · cases h rfl

/-- A part of another is read next: what stands before it has been read. -/
def Next (p q : Part) : Prop :=
  ∃ before after, p.inner = before ++ q :: after ∧ ∀ r ∈ before, r.check = .ok ()

/-- Reading several parts ends at the first one that fails. -/
theorem checkAll_eq_error_iff {parts : List Part} {e : Failure} :
    checkAll parts = .error e ↔
      ∃ before q after, parts = before ++ q :: after ∧ (∀ r ∈ before, r.check = .ok ()) ∧
        q.check = .error e := by
  induction parts with
  | nil =>
    refine ⟨nofun, ?_⟩
    rintro ⟨before, q, after, h, -⟩
    cases List.append_ne_nil_of_right_ne_nil before (List.cons_ne_nil q after) h.symm
  | cons p parts ih =>
    rw [checkAll_cons]
    cases hp : p.check with
    | error cause =>
      constructor
      · intro h
        cases h
        exact ⟨[], p, parts, rfl, nofun, hp⟩
      · -- a part in front that fails can only be the first one
        rintro ⟨_ | ⟨r, before⟩, q, after, h, hbefore, hq⟩
        · cases h
          exact hp.symm.trans hq
        · cases h
          rw [hbefore p List.mem_cons_self] at hp
          cases hp
    | ok u =>
      refine Iff.trans (show checkAll parts = .error e ↔ _ from ih) ?_
      constructor
      · rintro ⟨before, q, after, rfl, hbefore, hq⟩
        exact ⟨p :: before, q, after, rfl, List.forall_mem_cons.mpr ⟨hp, hbefore⟩, hq⟩
      · rintro ⟨_ | ⟨r, before⟩, q, after, h, hbefore, hq⟩
        · cases h
          rw [hp] at hq
          cases hq
        · cases h
          exact ⟨before, q, after, rfl, (List.forall_mem_cons.mp hbefore).2, hq⟩

/-- What is read next is a part. -/
theorem Next.mem_inner {p q : Part} (h : p.Next q) : q ∈ p.inner := by
  obtain ⟨before, after, hinner, -⟩ := h
  rw [hinner]
  exact List.mem_append_right before List.mem_cons_self

/-- What goes wrong in a part that is read goes wrong in the whole. -/
theorem Next.check_eq_error {p q : Part} {e : Failure} (h : p.Next q) (hq : q.check = .error e) :
    p.check = .error e := by
  rw [check_eq_checkAll_inner (List.ne_nil_of_mem h.mem_inner)]
  obtain ⟨before, after, hinner, hbefore⟩ := h
  exact checkAll_eq_error_iff.mpr ⟨before, q, after, hinner, hbefore, hq⟩

/-- So does what goes wrong in any part that is reached, by induction on the way to it. -/
theorem check_eq_error_of_reaches {p q : Part} {e : Failure} (h : ReflTransGen Next p q)
    (hq : q.check = .error e) : p.check = .error e := by
  induction h using ReflTransGen.head_induction_on with
  | refl => exact hq
  | head hnext _ ih => exact hnext.check_eq_error ih

/-- A part fails exactly as the one part without inner parts fails in which reading ends. -/
theorem check_eq_error_iff {p : Part} {e : Failure} :
    p.check = .error e ↔ ∃ q, ReflTransGen Next p q ∧ q.inner = [] ∧ q.check = .error e := by
  constructor
  · intro h
    by_cases hinner : p.inner = []
    · exact ⟨p, .refl, hinner, h⟩
    · obtain ⟨before, q, after, hparts, hbefore, hq⟩ :=
        checkAll_eq_error_iff.mp ((check_eq_checkAll_inner hinner).symm.trans h)
      have hnext : p.Next q := ⟨before, after, hparts, hbefore⟩
      -- the part that fails first is smaller, so it is known already where its reading ends
      have : sizeOf q.value < sizeOf p.value := (within_of_mem_inner hnext.mem_inner).sizeOf_lt
      obtain ⟨r, hr, hlast, hfails⟩ := check_eq_error_iff.mp hq
      exact ⟨r, .head hnext hr, hlast, hfails⟩
  · rintro ⟨q, hreach, -, hq⟩
    exact check_eq_error_of_reaches hreach hq
termination_by sizeOf p.value

/-- What passes from values to those inside them passes along the way to a part. -/
theorem hereditary_of_reaches {P : Value → Prop} (hP : Value.Hereditary P) {p q : Part}
    (h : ReflTransGen Next p q) (hp : P p.value) : P q.value := by
  induction h with
  | refl => exact hp
  | tail _ hnext ih => exact hP.within (within_of_mem_inner hnext.mem_inner) ih

end Part

end Script

end MailFilter
