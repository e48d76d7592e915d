import MailFilter.Script.Basic

/-!
# The parts of a script

What a run may expand, compare, bind and record, wherever it stands in the blocks and tests of a
script.

- `Test.texts`, `Command.texts`, `Script.texts`: the texts that tests and actions may expand.
- `Test.comparisons`: the keys that a test may compare values with.
- `Command.sets`, `Command.actions`, `Command.tests`, and the same for scripts: the `set` commands,
  the actions, and the tests that choose between blocks.
- `Command.mem_textsIn_iff`: texts are arguments of actions or stand in tests.
- `Command.pruned`, `Script.pruned`: what is left when some `set` commands are taken out.
- `Command.prunedIn_none`, `Command.setsIn_pruned`: taking out nothing changes nothing, and what is
  to be taken out is not there afterwards.
-/

namespace MailFilter

namespace Test

mutual

/-- The keys of a test, and the names or sources that it takes its values from. -/
def texts : Test → List Text
  | .constant _ => []
  | .allOf tests => textsIn tests
  | .anyOf tests => textsIn tests
  | .negation test => texts test
  | .present names => names
  | .header k names => k.keys ++ names
  | .address k _ names => k.keys ++ names
  | .string k sources => k.keys ++ sources

/-- The texts of the tests of a list. -/
def textsIn : List Test → List Text
  | [] => []
  | test :: rest => texts test ++ textsIn rest

end

mutual

/-- The comparisons that a test may make: the keys of the tests in it. -/
def comparisons : Test → List Keys
  | .constant _ => []
  | .allOf tests => comparisonsIn tests
  | .anyOf tests => comparisonsIn tests
  | .negation test => comparisons test
  | .present _ => []
  | .header k _ => [k]
  | .address k _ _ => [k]
  | .string k _ => [k]

/-- The comparisons of the tests of a list. -/
def comparisonsIn : List Test → List Keys
  | [] => []
  | test :: rest => comparisons test ++ comparisonsIn rest

end

end Test

namespace Command

mutual

/-- The arguments of the actions and the texts of the tests in a command. -/
def texts : Command → List Text
  | .set _ => []
  | .action a => [a.argument]
  | .choice branches otherwise => textsInBranches branches ++ textsIn otherwise

/-- The texts of the commands of a block. -/
def textsIn : List Command → List Text
  | [] => []
  | c :: rest => c.texts ++ textsIn rest

/-- The texts of branches. -/
def textsInBranches : List (Test × List Command) → List Text
  | [] => []
  | (test, block) :: rest => test.texts ++ textsIn block ++ textsInBranches rest

end

mutual

/-- The `set` commands in a command. -/
def sets : Command → List SetCommand
  | .set c => [c]
  | .action _ => []
  | .choice branches otherwise => setsInBranches branches ++ setsIn otherwise

/-- The `set` commands in a block. -/
def setsIn : List Command → List SetCommand
  | [] => []
  | c :: rest => c.sets ++ setsIn rest

/-- The `set` commands in the blocks of branches. -/
def setsInBranches : List (Test × List Command) → List SetCommand
  | [] => []
  | (_, block) :: rest => setsIn block ++ setsInBranches rest

end

mutual

/-- The actions in a command. -/
def actions : Command → List Action
  | .set _ => []
  | .action a => [a]
  | .choice branches otherwise => actionsInBranches branches ++ actionsIn otherwise

/-- The actions in a block. -/
def actionsIn : List Command → List Action
  | [] => []
  | c :: rest => c.actions ++ actionsIn rest

/-- The actions in the blocks of branches. -/
def actionsInBranches : List (Test × List Command) → List Action
  | [] => []
  | (_, block) :: rest => actionsIn block ++ actionsInBranches rest

end

mutual

/-- The tests that choose between the blocks of a command. -/
def tests : Command → List Test
  | .set _ => []
  | .action _ => []
  | .choice branches otherwise => testsInBranches branches ++ testsIn otherwise

/-- The tests in a block. -/
def testsIn : List Command → List Test
  | [] => []
  | c :: rest => c.tests ++ testsIn rest

/-- The tests of branches, and the tests in their blocks. -/
def testsInBranches : List (Test × List Command) → List Test
  | [] => []
  | (test, block) :: rest => test :: testsIn block ++ testsInBranches rest

end

mutual

theorem mem_texts_iff {t : Text} : ∀ c : Command,
    t ∈ c.texts ↔ (∃ a ∈ c.actions, a.argument = t) ∨ ∃ test ∈ c.tests, t ∈ test.texts
  | .set _ => by simp [texts, actions, tests]
  | .action a => by simp [texts, actions, tests, eq_comm]
  | .choice branches otherwise => by
    simp only [texts, actions, tests, List.mem_append, or_and_right, exists_or,
      mem_textsInBranches_iff branches, mem_textsIn_iff otherwise]
    exact or_or_or_comm

/-- The texts of a block are the arguments of its actions and the texts of its tests. -/
theorem mem_textsIn_iff {t : Text} : ∀ cs : List Command,
    t ∈ textsIn cs ↔
      (∃ a ∈ actionsIn cs, a.argument = t) ∨ ∃ test ∈ testsIn cs, t ∈ test.texts
  | [] => by simp [textsIn, actionsIn, testsIn]
  | c :: rest => by
    simp only [textsIn, actionsIn, testsIn, List.mem_append, or_and_right, exists_or,
      mem_texts_iff c, mem_textsIn_iff rest]
    exact or_or_or_comm

theorem mem_textsInBranches_iff {t : Text} : ∀ bs : List (Test × List Command),
    t ∈ textsInBranches bs ↔
      (∃ a ∈ actionsInBranches bs, a.argument = t) ∨
        ∃ test ∈ testsInBranches bs, t ∈ test.texts
  | [] => by simp [textsInBranches, actionsInBranches, testsInBranches]
  | (test, block) :: rest => by
    simp only [textsInBranches, actionsInBranches, testsInBranches, List.mem_append,
      List.cons_append, List.mem_cons, or_and_right, exists_or, exists_eq_left,
      mem_textsIn_iff block, mem_textsInBranches_iff rest]
    grind

end

/-- Whether a command is a `set` command of a kind. -/
def isSet (p : SetCommand → Bool) : Command → Bool
  | .set c => p c
  | _ => false

mutual

/-- The command without the `set` commands of a kind in its blocks. -/
def pruned (p : SetCommand → Bool) : Command → Command
  | .set c => .set c
  | .action a => .action a
  | .choice branches otherwise => .choice (prunedBranches p branches) (prunedIn p otherwise)

/-- The block without the `set` commands of a kind, at any depth. -/
def prunedIn (p : SetCommand → Bool) : List Command → List Command
  | [] => []
  | c :: rest => if c.isSet p then prunedIn p rest else c.pruned p :: prunedIn p rest

/-- The branches without the `set` commands of a kind in their blocks. -/
def prunedBranches (p : SetCommand → Bool) :
    List (Test × List Command) → List (Test × List Command)
  | [] => []
  | (test, block) :: rest => (test, prunedIn p block) :: prunedBranches p rest

end

mutual

theorem pruned_none : ∀ c : Command, c.pruned (fun _ => false) = c
  | .set _ => rfl
  | .action _ => rfl
  | .choice branches otherwise => by
    rw [pruned, prunedBranches_none branches, prunedIn_none otherwise]

/-- Taking out nothing changes nothing. -/
theorem prunedIn_none : ∀ cs : List Command, prunedIn (fun _ => false) cs = cs
  | [] => rfl
  | c :: rest => by
    have hkept : c.isSet (fun _ => false) = false := by cases c <;> rfl
    rw [prunedIn, hkept, pruned_none c, prunedIn_none rest]
    rfl

theorem prunedBranches_none :
    ∀ bs : List (Test × List Command), prunedBranches (fun _ => false) bs = bs
  | [] => rfl
  | (test, block) :: rest => by
    rw [prunedBranches, prunedIn_none block, prunedBranches_none rest]

end

mutual

theorem sets_pruned (p : SetCommand → Bool) : ∀ c : Command, c.isSet p = false →
    (c.pruned p).sets = c.sets.filter fun d => !p d
  | .set c, hkept => by
    have hkept : p c = false := hkept
    rw [pruned, sets, List.filter_cons, hkept]
    rfl
  | .action _, _ => rfl
  | .choice branches otherwise, _ => by
    rw [pruned, sets, sets, List.filter_append, setsInBranches_pruned p branches,
      setsIn_pruned p otherwise]

/-- The `set` commands that are left in a pruned block. -/
theorem setsIn_pruned (p : SetCommand → Bool) : ∀ cs : List Command,
    setsIn (prunedIn p cs) = (setsIn cs).filter fun d => !p d
  | [] => rfl
  | c :: rest => by
    rw [prunedIn, setsIn, List.filter_append, ← setsIn_pruned p rest]
    cases hdrop : c.isSet p with
    | false =>
      rw [if_neg Bool.false_ne_true, setsIn, sets_pruned p c hdrop]
    | true =>
      rw [if_pos rfl]
      cases c with
      | set c =>
        have hdrop : p c = true := hdrop
        simp [sets, hdrop]
      | action a => nomatch hdrop
      | choice branches otherwise => nomatch hdrop

theorem setsInBranches_pruned (p : SetCommand → Bool) : ∀ bs : List (Test × List Command),
    setsInBranches (prunedBranches p bs) = (setsInBranches bs).filter fun d => !p d
  | [] => rfl
  | (test, block) :: rest => by
    rw [prunedBranches, setsInBranches, setsInBranches, List.filter_append, setsIn_pruned p block,
      setsInBranches_pruned p rest]

end

end Command

namespace Script

/-- The texts that the tests and actions of a script may expand. -/
def texts (s : Script) : List Text :=
  Command.textsIn s.commands

/-- The `set` commands of a script. -/
def sets (s : Script) : List SetCommand :=
  Command.setsIn s.commands

/-- The actions of a script. -/
def actions (s : Script) : List Action :=
  Command.actionsIn s.commands

/-- The tests of a script that choose between blocks. -/
def tests (s : Script) : List Test :=
  Command.testsIn s.commands

/-- The script without the `set` commands of a kind. -/
def pruned (p : SetCommand → Bool) (s : Script) : Script :=
  { s with commands := Command.prunedIn p s.commands }

end Script

end MailFilter
