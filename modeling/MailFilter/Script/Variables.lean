import MailFilter.Script.Basic
import MailFilter.Variable.Template

/-!
# The variables of a script

A script may refer to variables that none of its commands binds. Only what commands record or bind is
looked at, not the tests that choose between them.

- `Script.assigned`: the names that are bound somewhere.
- `Script.referenced`: the names that commands refer to.
- `Script.unassigned`: the names that are referred to and never bound.
-/

namespace MailFilter

namespace Command

mutual

/-- The names that a command or a block of it binds, in small letters. -/
def assigned : Command → List Text
  | .set c => [c.name.lower]
  | .action _ => []
  | .choice branches otherwise => assignedInBranches branches ++ assignedIn otherwise

/-- The names that the commands of a block bind. -/
def assignedIn : List Command → List Text
  | [] => []
  | c :: rest => c.assigned ++ assignedIn rest

/-- The names that the blocks of branches bind. -/
def assignedInBranches : List (Test × List Command) → List Text
  | [] => []
  | (_, block) :: rest => assignedIn block ++ assignedInBranches rest

end

mutual

/-- The names that a command or a block of it refers to, in order. -/
def referenced : Command → List Text
  | .set c => Template.references c.value
  | .action a => Template.references a.argument
  | .choice branches otherwise => referencedInBranches branches ++ referencedIn otherwise

/-- The names that the commands of a block refer to. -/
def referencedIn : List Command → List Text
  | [] => []
  | c :: rest => c.referenced ++ referencedIn rest

/-- The names that the blocks of branches refer to. -/
def referencedInBranches : List (Test × List Command) → List Text
  | [] => []
  | (_, block) :: rest => referencedIn block ++ referencedInBranches rest

end

end Command

namespace Text

/-- The order of texts by their first code point that differs. -/
def isAtMost : Text → Text → Bool
  | [], _ => true
  | _ :: _, [] => false
  | a :: s, b :: t => a.toNat < b.toNat || (a.toNat = b.toNat && isAtMost s t)

end Text

namespace Script

/-- The names that are bound somewhere, in small letters. -/
def assigned (s : Script) : List Text :=
  Command.assignedIn s.commands

/-- The names that commands refer to, in order. -/
def referenced (s : Script) : List Text :=
  Command.referencedIn s.commands

/-- The names that are referred to and never bound, each once and in order. Numbers are not bound by
commands and are left out. -/
def unassigned (s : Script) : List Text :=
  let names := s.referenced.filter fun name =>
    !s.assigned.contains name.lower && !Store.isNumber name
  names.eraseDups.mergeSort Text.isAtMost

/-- A name is listed if and only if it is referred to, never bound, and no number. -/
theorem mem_unassigned_iff (s : Script) (name : Text) :
    name ∈ s.unassigned ↔
      name ∈ s.referenced ∧ name.lower ∉ s.assigned ∧ Store.isNumber name = false := by
  simp [unassigned, List.mem_mergeSort, List.mem_eraseDups, List.mem_filter]

end Script

end MailFilter
