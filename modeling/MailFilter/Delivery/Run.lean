import MailFilter.Delivery.Outcome
import MailFilter.Log.Record
import MailFilter.Match.Comparison
import MailFilter.Message.AddressList
import MailFilter.Message.Basic

/-!
# Running a script

A script runs over one message with a store of its own. Tests look at the message and may replace
the captures; commands bind variables and record actions. The run ends early at `stop`, and breaks
off where something goes wrong; what was recorded in the log up to there stays.

- `Delivery.Surroundings`, `Delivery.State`, `Run`: what a run reads, what it changes, a step.
- `Keys.decide`: compares values with keys and keeps the groups of a glob.
- `Test.evaluate`, `Command.runAll`: tests and blocks of commands. A block answers whether the run
  goes on.
-/

namespace MailFilter

namespace Delivery

/-- What a run reads: the message, and whether variables are enabled. -/
structure Surroundings where
  message : Message
  variablesEnabled : Bool

/-- What a run changes. -/
structure State where
  store : Store
  outcome : Outcome
  journal : Journal
  deriving Inhabited

/-- A step of a run. Where it fails, the state at that point is kept. -/
abbrev Run := ReaderT Surroundings (ExceptT Failure (StateM State))

/-- The logger of the commands that bind variables. -/
def variablesLogger : Text := "sieve_vars.variables.commands"

/-- The logger of the engine. -/
def engineLogger : Text := "sieve_vars.rules.engine"

namespace Run

/-- Takes the value of a computation that may fail. -/
def ofExcept {α : Type} : Except Failure α → Run α
  | .ok a => pure a
  | .error e => throw e

/-- Takes the value of an operation that may meet a value it is not made for. -/
def ofFault {α : Type} (r : Except Fault α) : Run α :=
  ofExcept (r.mapError .fault)

/-- Records a message in the log. -/
def note (level : Level) (logger message : Text) : Run Unit :=
  modify fun s => { s with journal := s.journal.write level logger message }

/-- Whether variables are enabled. -/
def variablesEnabled : Run Bool :=
  return (← read).variablesEnabled

/-- The store as it is. -/
def store : Run Store :=
  return (← get).store

/-- Replaces the store. -/
def setStore (store : Store) : Run Unit :=
  modify fun s => { s with store }

/-- Puts values in place of references, unless variables are disabled. -/
def expand (t : Text) : Run Text := do
  if ← variablesEnabled then return Template.expand (← store) t
  else return t

/-- Expands each text of a list. -/
def expandAll (ts : List Text) : Run (List Text) :=
  ts.mapM expand

end Run

end Delivery

open Delivery

namespace Keys

/-- The groups of the first pair of a value and a key that match, values going before keys. -/
def firstMatch (k : Keys) (keys : List Text) : List Text → Except Failure (Option (List Text))
  | [] => .ok none
  | value :: values => do
    match ← firstKey value keys with
    | some groups => return some groups
    | none => firstMatch k keys values
where
  /-- The groups of the first key that matches a value. -/
  firstKey (value : Text) : List Text → Except Failure (Option (List Text))
    | [] => .ok none
    | key :: keys => do
      match ← Comparison.groups k.matchType k.comparator value key with
      | some groups => return some groups
      | none => firstKey value keys

/-- Decides a test: expands the keys, takes the values, and keeps the groups of a glob. -/
def decide (k : Keys) (values : Run (List Text)) : Run Bool := do
  let keys ← Run.expandAll k.keys
  let values ← values
  match ← Run.ofExcept (k.firstMatch keys values) with
  | none => return false
  | some groups =>
    if k.matchType = .glob then
      if ← Run.variablesEnabled then
        Run.setStore ((← Run.store).capture groups)
        Run.note .debug variablesLogger
          ("bound " ++ Text.ofNat (min groups.length maxCaptures) ++ " match capture(s)")
    return true

end Keys

namespace AddressPart

/-- A part of an address. The last at sign stands before the domain. -/
def select (part : AddressPart) (address : Text) : Text :=
  match part, Text.cutLast? (.char '@') address with
  | .all, _ => address
  | .localPart, some (before, _) => before
  | .localPart, none => address
  | .domain, some (_, after) => after
  | .domain, none => []

end AddressPart

namespace Delivery

/-- The texts of all header fields of some names. -/
def headerValues (names : List Text) : Run (List Text) := do
  let names ← Run.expandAll names
  let message := (← read).message
  let values ← names.mapM fun name => Run.ofFault (message.values name)
  return values.flatten

/-- A part of each address in the header fields of some names. -/
def addressValues (part : AddressPart) (names : List Text) : Run (List Text) := do
  let values ← headerValues names
  return (AddressList.ofValues values).map part.select

/-- Whether all header fields of some names are present. -/
def allPresent : List Text → Run Bool
  | [] => return true
  | name :: names => do
    let message := (← read).message
    if ← Run.ofFault (message.has name) then allPresent names else return false

end Delivery

namespace Test

mutual

/-- Decides a test. Tests in a list are decided from the left until the answer is known. -/
def evaluate : Test → Run Bool
  | .constant b => return b
  | .allOf tests => evaluateAll tests
  | .anyOf tests => evaluateAny tests
  | .negation test => return !(← evaluate test)
  | .present names => do allPresent (← Run.expandAll names)
  | .header keys names => keys.decide (headerValues names)
  | .address keys part names => keys.decide (addressValues part names)
  | .string keys sources => keys.decide (Run.expandAll sources)

/-- Whether all tests of a list hold. -/
def evaluateAll : List Test → Run Bool
  | [] => return true
  | test :: tests => do if ← evaluate test then evaluateAll tests else return false

/-- Whether any test of a list holds. -/
def evaluateAny : List Test → Run Bool
  | [] => return false
  | test :: tests => do if ← evaluate test then return true else evaluateAny tests

end

end Test

namespace SetCommand

/-- Runs a `set` command. -/
def run (c : SetCommand) : Run Unit := do
  let (result, store) ← Run.ofExcept (c.execute (← Run.variablesEnabled) (← Run.store))
  Run.setStore store
  match result with
  | some value =>
    Run.note .debug variablesLogger ("set " ++ c.name.quoted ++ " = " ++ value.quoted)
  | none =>
    Run.note .debug variablesLogger ("variables disabled, skipping set " ++ c.name.quoted)

end SetCommand

namespace Action

/-- The action with another argument, if it has one. -/
def withArgument (argument : Text) : Action → Action
  | .tag _ => .tag argument
  | .fileInto _ => .fileInto argument
  | .log _ => .log argument
  | a => a

/-- Runs an action, and answers whether the script goes on. -/
def run (a : Action) : Run Bool := do
  -- the outcome notes the early end when the script is over, not here
  if a = .stop then return false
  let argument ← Run.expand a.argument
  if a matches .log _ then Run.note .info engineLogger ("script log: " ++ argument)
  modify fun s => { s with outcome := s.outcome.record (a.withArgument argument) }
  return true

end Action

namespace Command

mutual

/-- Runs a command, and answers whether the script goes on. -/
def run : Command → Run Bool
  | .set c => do
    c.run
    return true
  | .action a => a.run
  | .choice branches otherwise => runChoice (runAll otherwise) branches

/-- Runs the block of the first branch whose test holds, or what is to be run otherwise. -/
def runChoice (otherwise : Run Bool) : List (Test × List Command) → Run Bool
  | [] => otherwise
  | (test, block) :: branches => do
    if ← test.evaluate then runAll block else runChoice otherwise branches

/-- Runs commands one after another until one ends the script. -/
def runAll : List Command → Run Bool
  | [] => return true
  | command :: commands => do if ← run command then runAll commands else return false

end

end Command

end MailFilter
