import MailFilter.Variable.Modifier
import MailFilter.Variable.Template

/-!
# Set commands

A `set` command binds a value to a name. Its arguments are any number of modifiers, each behind a
colon, followed by the name and the value. The value is expanded when the command runs, then goes
through the modifiers, and is bound. While variables are disabled nothing is bound.

- `SetCommand.ofArguments`: reads the arguments.
- `SetCommand.arguments`: the arguments again.
- `SetCommand.execute`: expands, modifies and binds.
- `Store.assign`: modifies and binds a value that is expanded already.
- `Store.captureIf`: keeps the groups of a glob.
- `SetCommand.arguments_ofArguments`: reading loses nothing.
-/

namespace MailFilter

/-- A command that binds a value to a name. -/
structure SetCommand where
  name : Text
  value : Text
  /-- The modifiers as written. -/
  tokens : List Text
  modifiers : ModifierSet
  deriving DecidableEq

namespace SetCommand

/-- Whether an argument is written behind a colon. -/
def isTag : Text → Bool
  | .char ':' :: _ => true
  | _ => false

/-- Reads the arguments of a command. Their number is checked before the modifiers are. -/
def ofArguments (arguments : List Text) : Except SetError SetCommand :=
  match arguments.dropWhile isTag with
  | [name, value] => do
    let tokens := arguments.takeWhile isTag
    return ⟨name, value, tokens, ← ModifierSet.ofTokens tokens⟩
  | _ :: _ :: _ :: _ => .error (.tooMany arguments)
  | _ => .error (.tooFew arguments)

/-- The arguments of a command. -/
def arguments (c : SetCommand) : List Text :=
  c.tokens ++ [c.name, c.value]

/-- Reading loses nothing: the arguments of a command are those that it was read from. -/
theorem arguments_ofArguments {args : List Text} {c : SetCommand} (h : ofArguments args = .ok c) :
    c.arguments = args := by
  unfold ofArguments at h
  split at h
  · next name value hd =>
    have whole := List.takeWhile_append_dropWhile (p := isTag) (l := args)
    cases hm : ModifierSet.ofTokens (args.takeWhile isTag) with
    | error e => simp [hm, bind, Except.bind] at h
    | ok m =>
      simp only [hm, bind, Except.bind, pure, Except.pure, Except.ok.injEq] at h
      rw [← h, arguments, ← hd]
      exact whole
  · contradiction
  · contradiction

end SetCommand

namespace Store

/-- Sends a value through modifiers and binds what comes out. -/
def assignModified (s : Store) (modifiers : ModifierSet) (name value : Text) :
    Except Failure (Text × Store) :=
  match modifiers.apply value with
  | .ok result => .ok (result, s.bind name result)
  | .error fault => .error (.fault fault)

/-- Modifies and binds a value that is expanded already. The modifiers are read even while variables
are disabled, so an unknown one is refused in any case. -/
def assign (s : Store) (enabled : Bool) (tokens : List Text) (name value : Text) :
    Except Failure (Option Text × Store) :=
  match ModifierSet.ofTokens tokens with
  | .error e => .error (.set e)
  | .ok modifiers =>
    if enabled then do
      let (result, s) ← s.assignModified modifiers name value
      return (some result, s)
    else .ok (none, s)

/-- Keeps the groups of a glob, unless variables are disabled. -/
def captureIf (s : Store) (enabled : Bool) (groups : List Text) : Store :=
  if enabled then s.capture groups else s

end Store

namespace SetCommand

/-- Expands, modifies and binds the value of a command, unless variables are disabled. -/
def execute (c : SetCommand) (enabled : Bool) (s : Store) :
    Except Failure (Option Text × Store) :=
  if enabled then do
    let (result, s) ← s.assignModified c.modifiers c.name (Template.expand s c.value)
    return (some result, s)
  else .ok (none, s)

end SetCommand

end MailFilter
