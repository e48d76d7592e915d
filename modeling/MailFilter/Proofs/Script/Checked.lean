import MailFilter.Proofs.Answer
import MailFilter.Proofs.Script.Parts
import MailFilter.Proofs.Script.Reading
import MailFilter.Proofs.Value.Within

/-!
# What is checked when a script is read

A script that has been read is in order in two respects that are not looked at again: every
comparator supports the match type that it is used with, and the arguments of every `set` command
have the right number and known modifiers.

- `Test.Checked`, `Command.Checked`, `Script.Checked`: what has been checked.
- `Test.checked_ofValue`, `Command.checked_ofValue`, `Script.checked_ofValue`: the readers check it.
-/

namespace MailFilter

/-- The comparator supports the match type. -/
def Keys.Checked (k : Keys) : Prop :=
  k.comparator.supports k.matchType = true

/-- The arguments of a command can be read, and are read as the command. -/
def SetCommand.Checked (c : SetCommand) : Prop :=
  ofArguments c.arguments = .ok c

namespace Test

/-- Every comparison of a test has been checked. -/
def Checked (test : Test) : Prop :=
  ∀ k ∈ test.comparisons, k.Checked

/-- What holds of the comparisons of each test of a list holds of all of them. -/
theorem forall_comparisonsIn {P : Keys → Prop} : ∀ {tests : List Test},
    (∀ test ∈ tests, ∀ k ∈ test.comparisons, P k) → ∀ k ∈ comparisonsIn tests, P k
  | [], _ => List.forall_mem_nil P
  | test :: rest, h => by
    obtain ⟨hfirst, hrest⟩ := List.forall_mem_cons.mp h
    exact List.forall_mem_append.mpr ⟨hfirst, forall_comparisonsIn hrest⟩

end Test

namespace Command

/-- Every test and every `set` command in a command has been checked. -/
structure Checked (c : Command) : Prop where
  tests : ∀ test ∈ c.tests, test.Checked
  sets : ∀ s ∈ c.sets, s.Checked

/-- The test of a branch has been checked, and its block. -/
structure BranchChecked (branch : Test × List Command) : Prop where
  test : branch.1.Checked
  block : ∀ c ∈ branch.2, c.Checked

/-- The tests of a block are those of its commands. -/
theorem Checked.testsIn : ∀ {block : List Command}, (∀ c ∈ block, c.Checked) →
    ∀ test ∈ testsIn block, test.Checked
  | [], _ => List.forall_mem_nil _
  | c :: rest, h => by
    obtain ⟨hfirst, hrest⟩ := List.forall_mem_cons.mp h
    exact List.forall_mem_append.mpr ⟨hfirst.tests, testsIn hrest⟩

/-- So are its `set` commands. -/
theorem Checked.setsIn : ∀ {block : List Command}, (∀ c ∈ block, c.Checked) →
    ∀ s ∈ setsIn block, s.Checked
  | [], _ => List.forall_mem_nil _
  | c :: rest, h => by
    obtain ⟨hfirst, hrest⟩ := List.forall_mem_cons.mp h
    exact List.forall_mem_append.mpr ⟨hfirst.sets, setsIn hrest⟩

/-- The tests of branches are those that choose, and those of the blocks. -/
theorem Checked.testsInBranches : ∀ {branches : List (Test × List Command)},
    (∀ branch ∈ branches, BranchChecked branch) → ∀ test ∈ testsInBranches branches, test.Checked
  | [], _ => List.forall_mem_nil _
  | (test, block) :: rest, h => by
    obtain ⟨hfirst, hrest⟩ := List.forall_mem_cons.mp h
    refine List.forall_mem_append.mpr ⟨?_, testsInBranches hrest⟩
    exact List.forall_mem_cons.mpr ⟨hfirst.test, testsIn hfirst.block⟩

/-- The `set` commands of branches are those of the blocks. -/
theorem Checked.setsInBranches : ∀ {branches : List (Test × List Command)},
    (∀ branch ∈ branches, BranchChecked branch) → ∀ s ∈ setsInBranches branches, s.Checked
  | [], _ => List.forall_mem_nil _
  | (test, block) :: rest, h => by
    obtain ⟨hfirst, hrest⟩ := List.forall_mem_cons.mp h
    exact List.forall_mem_append.mpr ⟨setsIn hfirst.block, setsInBranches hrest⟩

/-- A choice is in order if its branches and its last block are. -/
theorem Checked.choice {branches : List (Test × List Command)} {otherwise : List Command}
    (hbranches : ∀ branch ∈ branches, BranchChecked branch)
    (hotherwise : ∀ c ∈ otherwise, c.Checked) :
    (choice branches otherwise).Checked where
  tests := List.forall_mem_append.mpr ⟨testsInBranches hbranches, testsIn hotherwise⟩
  sets := List.forall_mem_append.mpr ⟨setsInBranches hbranches, setsIn hotherwise⟩

end Command

/-- Every test and every `set` command of a script has been checked. -/
structure Script.Checked (script : Script) : Prop where
  tests : ∀ test ∈ script.tests, test.Checked
  sets : ∀ s ∈ script.sets, s.Checked

/-- The reader of keys refuses a comparator that does not support the match type. -/
theorem Keys.checked_ofValue (keyword : Text) (body : Value) :
    Yields Checked (ofValue keyword body) := by
  unfold ofValue
  refine .bind fun keys _ => .bind fun matchType _ => .bind fun comparator _ => ?_
  split
  · next hsupports => exact .ok hsupports
  · exact .error _

/-- The reader of a `set` command keeps the arguments that it has read it from. -/
theorem SetCommand.checked_ofValue (body : Value) : Yields Checked (ofValue body) := by
  refine .bind fun arguments _ => ?_
  split
  · next c hread =>
    have harguments := arguments_ofArguments hread
    exact .ok (show ofArguments c.arguments = .ok c by rw [harguments, hread])
  · exact .error _

namespace Test

/-- A test that compares has one comparison, which has been checked with its keys. -/
theorem checked_keyedOfValue (keyword : Text) (body : Value) :
    Yields Checked (keyedOfValue keyword body) := by
  refine .bind fun keys hkeys => ?_
  have hchecked : ∀ k ∈ [keys], k.Checked :=
    List.forall_mem_singleton.mpr (Keys.checked_ofValue keyword body keys hkeys)
  split
  · exact .bind fun sources _ => .ok hchecked
  · refine .bind fun names _ => ?_
    split
    · exact .ok hchecked
    · exact .bind fun part _ => .ok hchecked

/-- The comparisons of a test that has been read are checked, at any depth. -/
theorem checked_ofValue (v : Value) : Yields Checked (ofValue v) := by
  by_cases hv : ∃ b, v = .bool b
  · obtain ⟨b, rfl⟩ := hv
    rw [ofValue_bool]
    exact .ok nofun
  rw [ofValue_eq fun b hb => hv ⟨b, hb⟩]
  refine .bind ?_
  rintro ⟨keyword, body⟩ hbody
  have hsmaller : sizeOf body < sizeOf v := Value.sizeOf_keywordAndBody_lt hbody
  show Yields Checked (ofKeyword keyword body)
  unfold ofKeyword
  split
  · exact .ok nofun
  split
  · split
    · next items =>
      have hitems : Yields (fun tests => ∀ test ∈ tests, Checked test) (items.mapM ofValue) :=
        .mapM fun w hw => by
          -- the tests of a list are smaller than the test that lists them
          have hitem : w.Within v := .trans (.item hw) (.body hbody)
          have := hitem.sizeOf_lt
          exact checked_ofValue w
      refine hitems.map fun tests htests => ?_
      split
      · exact forall_comparisonsIn htests
      · exact forall_comparisonsIn htests
    · exact .error _
  split
  · exact (checked_ofValue body).map fun test htest => htest
  split
  · exact .bind fun names _ => .ok nofun
  split
  · split
    · exact checked_keyedOfValue keyword _
    · exact .error _
  · exact .error _
termination_by sizeOf v

end Test

namespace Command

/-- An entry that is missing holds nothing that could be out of order. -/
theorem checked_ofEntry {α : Type} {P : α → Prop} {read : Value → Except Failure (List α)}
    {entry : Option Value} (h : ∀ w, entry = some w → Yields (fun as => ∀ a ∈ as, P a) (read w)) :
    Yields (fun as => ∀ a ∈ as, P a) (ofEntry read entry) := by
  cases entry with
  | none => exact .ok (List.forall_mem_nil P)
  | some w => exact h w rfl

mutual

/-- The comparisons and the `set` commands in a command that has been read are checked. -/
theorem checked_ofValue (v : Value) : Yields Checked (ofValue v) := by
  rw [ofValue_eq]
  refine .bind ?_
  rintro ⟨keyword, body⟩ hbody
  have hsmaller : sizeOf body < sizeOf v := Value.sizeOf_keywordAndBody_lt hbody
  show Yields Checked (ofKeyword keyword body)
  unfold ofKeyword
  split
  · exact (SetCommand.checked_ofValue body).map fun c hc =>
      ⟨nofun, List.forall_mem_singleton.mpr hc⟩
  split
  -- the entries of the body are smaller than the body, and the body is smaller than the command
  · have hothers : Yields (fun branches => ∀ branch ∈ branches, BranchChecked branch)
        (ofEntry branchesOfValue (body.field? "elsif")) := checked_ofEntry fun w hw => by
      have := Value.sizeOf_field?_lt hw
      exact checked_branchesOfValue w
    have hotherwise : Yields (fun block => ∀ c ∈ block, c.Checked)
        (ofEntry blockOfValue (body.field? "else")) := checked_ofEntry fun w hw => by
      have := Value.sizeOf_field?_lt hw
      exact checked_blockOfValue w
    refine .bind fun first hfirst => .bind fun others hread => .bind fun otherwise hlast => .ok ?_
    have hbranch := checked_branchOfValue "if" body first hfirst
    have hbranches := List.forall_mem_cons.mpr ⟨hbranch, hothers others hread⟩
    exact .choice hbranches (hotherwise otherwise hlast)
  · exact .bind fun action _ => .ok ⟨nofun, nofun⟩
termination_by sizeOf v

/-- A branch that has been read is in order. -/
theorem checked_branchOfValue (what : Text) (body : Value) :
    Yields BranchChecked (branchOfValue what body) := by
  rw [branchOfValue_eq]
  split
  · exact .error _
  · have hblock : Yields (fun block => ∀ c ∈ block, c.Checked)
        (ofEntry blockOfValue (body.field? "then")) := checked_ofEntry fun w hw => by
      have := Value.sizeOf_field?_lt hw
      exact checked_blockOfValue w
    refine .bind fun test htest => .bind fun block hread => .ok ?_
    exact ⟨Test.checked_ofValue _ test htest, hblock block hread⟩
termination_by sizeOf body

/-- So are further branches, given as a list or as a pair. -/
theorem checked_branchesOfValue (v : Value) :
    Yields (fun branches => ∀ branch ∈ branches, BranchChecked branch) (branchesOfValue v) := by
  unfold branchesOfValue
  split
  case h_7 items =>
    rw [branchesOfList_eq_mapM]
    exact .mapM fun w hw => by
      have := List.sizeOf_lt_of_mem hw
      exact checked_branchOfValue "elsif" w
  case h_8 first second =>
    refine .bind fun b hb => .bind fun c hc => .ok ?_
    refine List.forall_mem_cons.mpr ⟨?_, List.forall_mem_singleton.mpr ?_⟩
    · exact checked_branchOfValue "elsif" first b hb
    · exact checked_branchOfValue "elsif" second c hc
  -- all other values hold no branch
  all_goals first
    | exact .ok nofun
    | exact .error _
    | split
      · exact .ok nofun
      · exact .error _
termination_by sizeOf v

/-- So are the commands of a block. -/
theorem checked_blockOfValue (v : Value) :
    Yields (fun block => ∀ c ∈ block, c.Checked) (blockOfValue v) := by
  unfold blockOfValue
  split
  · exact .ok nofun
  · next items =>
    rw [listOfValues_eq_mapM]
    exact .mapM fun w hw => by
      have := List.sizeOf_lt_of_mem hw
      exact checked_ofValue w
  · exact .error _
  · exact .error _
termination_by sizeOf v

end

end Command

/-- What a script holds has been checked when it was read. -/
theorem Script.checked_ofValue (v : Value) : Yields Checked (ofValue v) := by
  unfold ofValue
  split
  · refine .bind fun commands hcommands => .bind fun name _ => .bind fun require _ => .ok ?_
    have hblock := Command.checked_blockOfValue _ commands hcommands
    exact ⟨Command.Checked.testsIn hblock, Command.Checked.setsIn hblock⟩
  · exact .error _

end MailFilter
