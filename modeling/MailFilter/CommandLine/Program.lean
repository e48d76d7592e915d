import MailFilter.CommandLine.Help
import MailFilter.CommandLine.Options
import MailFilter.Delivery.Source
import MailFilter.Script.Variables
import MailFilter.Settings.Reading
import MailFilter.Variable.SetCommand

/-!
# The program

What a command line does: it runs a script over a message, expands a template, or checks a script.
The program reads files and prints; it writes none. What it has printed before something goes wrong
stays printed.

- `Program.Reply`: what is printed, and how the program ends.
- `Program.expand`, `Program.check`, `Program.deliver`: the three things that it does.
- `Program.run`: what a command line does.
-/

namespace MailFilter

namespace Program

/-- How the program ends. -/
inductive Ending where
  /-- It is done, well or not. -/
  | done (code : Nat)
  /-- It was used wrongly, or was asked for help. -/
  | refused (why : Refusal)
  /-- Something went wrong that has no message. -/
  | failed (e : Failure)

/-- What is printed, and how the program ends. -/
structure Reply where
  printed : Text
  ending : Ending

/-- What the program sees of the world. -/
structure World where
  files : FileTree
  environment : Environment

/-- Printing, which may fail on the way. -/
abbrev Printing := ExceptT Failure (StateM Text)

/-- Prints a line. -/
def print (t : Text) : Printing Unit :=
  modify (· ++ t ++ [.char '\n'])

/-! ## Expanding a template -/

/-- Binds a variable as the command line says. -/
def bind (modifiers : List Text) (s : Store) (given : Text) : Except Failure Store :=
  match Text.cut? "=" given with
  | none => .error (.binding (.missingName given))
  | some (name, value) => (s.assign true modifiers name value).map Prod.snd

/-- The text of a template with the bindings of the command line. -/
def expand (template : Text) (bindings modifiers : List Text) : Except Failure Text := do
  let store ← bindings.foldlM (bind modifiers) Store.empty
  return Template.expand store template

/-! ## Checking a script -/

/-- What is said of a script that can be read. -/
def describe (s : Script) : List Text :=
  let first := "Script '" ++ s.name ++ "' is valid (" ++ Text.ofNat s.commands.length ++
    " top-level commands)"
  if s.unassigned.isEmpty then [first]
  else [first, "  Referenced but never set: " ++ Text.join ", " s.unassigned]

/-- Checks the script in a file. -/
def check (files : FileTree) (file : Text) (format : DocumentFormat := .yaml) : Printing Unit := do
  let (script, _) ← Engine.scriptOfFile files (Path.ofText file) Journal.empty format
  (describe script).forM print

/-! ## Running a script -/

/-- The folders in which a message ends up. A folder has to have a text for a name. -/
def destinations (o : Outcome) (defaultFolder : Value) : Except Fault (List Text) :=
  match defaultFolder with
  | .text t => .ok (o.destinations t)
  | _ => if o.isKept then .error .wrongKind else .ok o.folders

/-- Some names, or what is said if there are none. -/
def listed (names : List Text) (none : Text) : Text :=
  if names.isEmpty then none else Text.join ", " names

/-- Prints what is to be done with a message. -/
def report (script : Script) (file : Text) (o : Outcome) (defaultFolder : Value) :
    Printing Unit := do
  print ("\nScript: " ++ script.name)
  print ("Message: " ++ file)
  print (List.replicate 50 (.char '-'))
  print ("  Tags: " ++ listed o.tags "(none)")
  let folders ← ExceptT.mk (pure ((destinations o defaultFolder).mapError .fault))
  let shown := Text.join ", " folders
  print ("  Destinations: " ++ if shown.isEmpty then Text.ofString "(discarded)" else shown)
  unless o.logs.isEmpty do
    print "  Log:"
    o.logs.forM fun line => print ("    - " ++ line)
  if o.stopped then print "  Stopped: yes"

/-- Runs a script over the message in a file. -/
def deliver (files : FileTree) (s : Settings) (script : Option Text) (file : Text)
    (account : Option Text) (format : DocumentFormat := .yaml) : Printing Unit := do
  let (script, journal) ← Engine.scriptOf files s.filter script Journal.empty format
  let message ← Engine.messageOfFile files file
  let outcome ← (Engine.deliver s.vars script message account journal).1
  report script file outcome s.filter.defaultFolder

/-! ## The command line -/

/-- Whether a value is given, and not empty. -/
def isGiven (t : Option Text) : Bool :=
  t.any (!·.isEmpty)

/-- Does what the options say, and answers whether the program ends well. -/
def perform (w : World) (o : Options) (format : DocumentFormat := .yaml) : Printing Bool := do
  let s ← Settings.load w.files w.environment o.config true format
  match o.expand with
  | some template =>
    print (← expand template o.bindings o.modifiers)
    return true
  | none =>
    if isGiven o.check then
      check w.files (o.check.getD []) format
      return true
    else if isGiven o.script || s.filter.scriptPath.isTruthy then
      if isGiven o.message then
        deliver w.files s o.script (o.message.getD []) o.account format
        return true
      else
        print "\nError: --message is required to run a script"
        return false
    else
      print "No mode specified. Use --script, --expand, --check, or --help"
      return false

/-- Does what the options say. A documented error is printed. -/
def follow (w : World) (o : Options) (format : DocumentFormat := .yaml) : Reply :=
  let (result, printed) := (perform w o format).run.run []
  match result with
  | .ok well => ⟨printed, .done (if well then 0 else 1)⟩
  | .error e =>
    match e.text? with
    | some t => ⟨printed ++ Text.ofString "\nError: " ++ t ++ Text.ofString "\n", .done 1⟩
    | none => ⟨printed, .failed e⟩

/-- What a command line does. -/
def run (w : World) (words : List Text) (format : DocumentFormat := .yaml) : Reply :=
  match Options.ofWords words with
  | .ok o => follow w o format
  | .error .help => ⟨Help.text, .refused .help⟩
  | .error .misuse => ⟨[], .refused .misuse⟩

end Program

end MailFilter
