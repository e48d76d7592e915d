import MailFilter.Variable.SetCommand

/-!
# Sessions

A store is worked on step by step, with variables enabled or not. A step may break off; what it has
changed up to there stays, and the next step finds the store as it is then.

- `Session`, `Session.exec`: a computation on a store, its answer and the store that it leaves.
- `Session.assign`: sends a value through modifiers, one after another, and binds what comes out.
- `Session.evaluate`, `Session.execute`: `set` commands with a value that is expanded already, and
  with one that has yet to be.
- `Session.Step`, `Session.perform`: what can be asked of a session, and what is done about it.
- `Session.finish`: the store that a list of steps leaves.
-/

namespace MailFilter

/-- A computation on a store, which knows whether variables are enabled. Where it breaks off, the
store at that point is kept. -/
abbrev Session := ReaderT Bool (ExceptT Failure (StateM Store))

namespace Session

section

variable {α : Type}

/-- The answer of a computation, and the store that it leaves. -/
def exec (x : Session α) (enabled : Bool) (s : Store) : Except Failure α × Store :=
  (x enabled).run.run s

/-- Takes the value of a computation that may fail. -/
def ofExcept : Except Failure α → Session α
  | .ok a => pure a
  | .error e => throw e

end

/-- Sends a value through the modifiers of a set, one after another. -/
def modified (modifiers : ModifierSet) (value : Text) : Session Text :=
  modifiers.enabled.foldlM (fun t m => ofExcept ((m.apply t).mapError .fault)) value

/-- Modifies a value and binds what comes out. -/
def assign (modifiers : ModifierSet) (name value : Text) : Session Text := do
  let result ← modified modifiers value
  modify fun s => s.bind name result
  return result

/-- Modifies and binds a value that is expanded already, unless variables are disabled. The modifiers
are read in any case. -/
def evaluate (tokens : List Text) (name value : Text) : Session (Option Text) := do
  let modifiers ← ofExcept ((ModifierSet.ofTokens tokens).mapError .set)
  if ← read then return some (← assign modifiers name value) else return none

/-- Expands, modifies and binds the value of a command, unless variables are disabled. -/
def execute (c : SetCommand) : Session (Option Text) := do
  if ← read then
    let value := Template.expand (← get) c.value
    return some (← assign c.modifiers c.name value)
  else return none

/-- What can be asked of a session. -/
inductive Step where
  /-- Binds a value to a name, also while variables are disabled. -/
  | bind (name value : Text)
  /-- Replaces the captures, also while variables are disabled. -/
  | capture (groups : List Text)
  /-- Forgets everything. -/
  | reset
  /-- Looks a name up. -/
  | lookup (name : Text)
  /-- Asks whether a name has a value. -/
  | contains (name : Text)
  /-- Asks for the store as text. -/
  | shown
  /-- Reads and runs a `set` command. -/
  | set (arguments : List Text)
  /-- Runs a `set` command with a value that is expanded already. -/
  | evaluate (tokens : List Text) (name value : Text)
  /-- Keeps the groups of a glob. -/
  | keepGroups (groups : List Text)
  /-- Expands a text. -/
  | expand (t : Text)
  deriving DecidableEq

/-- What a step answers. -/
inductive Answer where
  | nothing
  | text (t : Text)
  | truth (b : Bool)
  deriving DecidableEq

/-- The answer that is a text, if there is one. -/
def Answer.ofText? (t : Option Text) : Answer :=
  t.elim .nothing .text

/-- Does what is asked. -/
def perform : Step → Session Answer
  | .bind name value => do
    modify fun s => s.bind name value
    return .nothing
  | .capture groups => do
    modify fun s => s.capture groups
    return .nothing
  | .reset => do
    modify Store.reset
    return .nothing
  | .lookup name => return .ofText? ((← get).lookup? name)
  | .contains name => return .truth ((← get).contains name)
  | .shown => return .text (← get).shown
  | .set arguments => do
    let c ← ofExcept ((SetCommand.ofArguments arguments).mapError .set)
    return .ofText? (← execute c)
  | .evaluate tokens name value => return .ofText? (← evaluate tokens name value)
  | .keepGroups groups => do
    let enabled ← read
    modify fun s => s.captureIf enabled groups
    return .nothing
  | .expand t => return .text (Template.expand (← get) t)

/-- The store that steps leave. Each one begins where the one before it ended or broke off. -/
def finish (enabled : Bool) (s : Store) (steps : List Step) : Store :=
  steps.foldl (fun s step => ((perform step).exec enabled s).2) s

end Session

end MailFilter
