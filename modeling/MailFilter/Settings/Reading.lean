import MailFilter.Files.TextFile
import MailFilter.Settings.Environment
import MailFilter.Yaml.Format

/-!
# Reading settings

Settings come from a file that holds a mapping, if there is one, and from the environment, which has
the last word. They are checked when all of it is known.

- `Settings.Draft`: settings while they are read.
- `Settings.load`: reads the settings.
-/

namespace MailFilter

namespace Settings

/-- Settings while they are read. -/
structure Draft where
  settings : Settings := {}
  vars : Section := VariablesSettings.initial
  filter : Section := FilterSettings.initial
  log : Section := LogSettings.initial
  deriving Inhabited

namespace Draft

/-- The settings as far as they are known. -/
def finish (d : Draft) : Settings :=
  { d.settings with
    vars := .ofSection d.vars
    filter := .ofSection d.filter
    log := .ofSection d.log }

/-- The settings before anything is read. -/
def ofDirectory (directory : Path) : Draft :=
  let directory := directory.text
  let logs := (Path.ofText directory / Path.ofText "logs").text
  { settings := { directory, logDirectory := .plain (.text logs) } }

/-- Takes over a section of a document. A section without content is passed over. -/
def takeSection (document : Value) (name : Text) (s : Section) : Except Failure Section :=
  match document.field? name with
  | none => .ok s
  | some content =>
    if !content.isTruthy then .ok s
    else
      match content with
      | .map entries => (s.enterAll entries).mapError .fault
      | _ => Failure.refuseSettings (.sectionNotMapping name)

/-- Takes over a document. -/
def take (d : Draft) (document : Datum) : Except Failure Draft := do
  let setting (name : Text) (present : Datum) : Datum := (document.field? name).getD present
  let settings := { d.settings with
    appName := setting "app_name" d.settings.appName
    version := setting "version" d.settings.version
    debug := setting "debug" d.settings.debug
    logDirectory := setting "log_dir" d.settings.logDirectory }
  let vars ← takeSection document.value "variables" d.vars
  let filter ← takeSection document.value "filter" d.filter
  let log ← takeSection document.value "logging" d.log
  return ⟨settings, vars, filter, log⟩

/-- Takes over what the environment overrides. -/
def override (d : Draft) (e : Environment) : Draft :=
  { d with
    vars := e.apply Environment.variablesOverrides d.vars
    filter := e.apply Environment.filterOverrides d.filter
    log := e.apply Environment.logOverrides d.log }

end Draft

/-- The name of the settings file in its directory. -/
def fileName : Path := Path.ofText "config.yaml"

/-- The settings file in a directory, unless another one is named. -/
def filePath (directory : Path) : Option Text → Path
  | none | some [] => directory / fileName
  | some file => Path.ofText file

/-- The document in a settings file, which holds a mapping or nothing. -/
def readFile (files : FileTree) (path : Path) (format : DocumentFormat := .yaml) :
    Except Failure Datum := do
  let text ←
    match files.readText path with
    | .error (.file e) => Failure.refuseSettings (.unreadable e path.text)
    | r => r
  match format.read text with
  | .error .malformed => Failure.refuseSettings .unparsable
  | .error (.fault f) => .error (.fault f)
  | .ok document =>
    if !document.value.isTruthy then return .map none []
    else
      match document with
      | .map .. => return document
      | _ => Failure.refuseSettings (.notMapping path.text)

/-- Whether a settings file is read. One that is named has to be there. -/
def hasFile (files : FileTree) (directory : Path) (file : Option Text) : Except Failure Bool := do
  let path := filePath directory file
  let there ← files.reaches path
  if file.any (!·.isEmpty) && !there then Failure.refuseSettings (.notFound path.text)
  return there

/-- Reads the settings from a file and, if `overridden`, from the environment. -/
def load (files : FileTree) (e : Environment) (file : Option Text) (overridden : Bool)
    (format : DocumentFormat := .yaml) : Except Failure Settings := do
  let directory ← e.settingsDirectory.mapError .fault
  let draft := Draft.ofDirectory directory
  let draft ←
    if ← hasFile files directory file then
      draft.take (← readFile files (filePath directory file) format)
    else pure draft
  let settings := (if overridden then draft.override e else draft).finish
  settings.validate
  return settings

end Settings

end MailFilter
