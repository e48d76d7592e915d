import MailFilter.Delivery.Engine
import MailFilter.Files.TextFile
import MailFilter.Message.Reading
import MailFilter.Script.Document

/-!
# Scripts and messages in files

- `Engine.scriptOfFile`: the script in a file. One without a name is named for the file.
- `Engine.scriptOf`: the script in a file that is named, or in the one that the settings name.
- `Engine.messageOfFile`: the message in a file.
-/

namespace MailFilter

namespace Engine

/-- The script in a file. One without a name is named for the file. -/
def scriptOfFile (files : FileTree) (path : Path) (journal : Journal)
    (format : DocumentFormat := .yaml) : Except Failure (Script × Journal) := do
  let text ←
    match files.readText path with
    | .error (.file e) => Failure.refuseScript (.unreadable e path.text)
    | r => r
  let (script, journal) ← load (← Script.valueOfText text format) journal
  let name := if script.name.isEmpty then path.stem else script.name
  return ({ script with name }, journal)

/-- The script in a file that is named, or in the one that the settings name. -/
def scriptOf (files : FileTree) (settings : FilterSettings) (given : Option Text)
    (journal : Journal) (format : DocumentFormat := .yaml) :
    Except Failure (Script × Journal) :=
  match given with
  | some (c :: rest) => scriptOfFile files (Path.ofText (c :: rest)) journal format
  | _ =>
    if !settings.scriptPath.isTruthy then Failure.refuseScript .notConfigured
    else
      match settings.scriptPath with
      | .text t => scriptOfFile files (Path.ofText t) journal format
      | _ => .error (.fault .wrongKind)

/-- The message in a file. -/
def messageOfFile (files : FileTree) (given : Text) : Except Failure Message := do
  match files.read (Path.asGiven given) with
  | .ok octets => (Message.ofOctets octets).mapError .fault
  | .error (.file e) => .error (.mail (.unreadable e given))
  | .error e => .error e

end Engine

end MailFilter
