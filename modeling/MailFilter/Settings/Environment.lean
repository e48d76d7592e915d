import MailFilter.Files.Path
import MailFilter.Settings.Section

/-!
# The environment

Variables of the environment say where the settings file is, and override what it says.

- `Environment.settingsDirectory`: the directory of the settings file.
- `Override`: a setting that the environment can override.
- `Environment.apply`: a section with its overrides.
- `Environment.truth`: what counts as true.
-/

namespace MailFilter

/-- The variables of the environment. -/
abbrev Environment := Assoc Text Text

namespace Environment

/-- The value of a variable. -/
def valueOf? (e : Environment) (name : Text) : Option Text :=
  Assoc.get? name e

/-- The home directory. -/
def home (e : Environment) : Except Fault Path :=
  match e.valueOf? "HOME" with
  | none => .error .homeless
  | some t =>
    if t.startsWith "~" then .error .homeless
    else .ok (Path.ofText (if t.all (· = .char '/') then "/" else t))

/-- The name of the directory of settings among those of other programs. -/
def ownDirectory : Path := Path.ofText "sieve-vars"

/-- The directory of the settings file. -/
def settingsDirectory (e : Environment) : Except Fault Path :=
  match e.valueOf? "SIEVE_VARS_CONFIG_DIR" with
  | some t => .ok (Path.ofText t)
  | none =>
    match e.valueOf? "XDG_CONFIG_HOME" with
    | some t => .ok (Path.ofText t / ownDirectory)
    | none => e.home.map fun home => home / Path.ofText ".config" / ownDirectory

/-- What counts as true, in letters of any case. Everything else counts as false. -/
def truth (t : Text) : Bool :=
  [("true" : Text), "1", "yes", "on"].contains t.lower

/-- A truth value by what counts as true. -/
def switch (t : Text) : Value := .bool (truth t)

/-- A variable that overrides a setting, and how its text is read. -/
structure Override where
  source : Text
  setting : Text
  read : Text → Value

/-- What overrides the settings of variables. -/
def variablesOverrides : List Override :=
  [⟨"SIEVE_VARS_VARIABLES_ENABLED", "enabled", switch⟩]

/-- What overrides the settings of the filter. -/
def filterOverrides : List Override :=
  [⟨"SIEVE_VARS_FILTER_SCRIPT_PATH", "script_path", .text⟩,
    ⟨"SIEVE_VARS_FILTER_DEFAULT_FOLDER", "default_folder", .text⟩]

/-- What overrides the settings of the log. -/
def logOverrides : List Override :=
  [⟨"SIEVE_VARS_LOGGING_LEVEL", "level", .text⟩,
    ⟨"SIEVE_VARS_LOGGING_JSON_FORMAT", "json_format", switch⟩]

/-- Overrides settings of a section. -/
def apply (e : Environment) (overrides : List Override) (s : Section) : Section :=
  overrides.foldl (fun s o =>
    match e.valueOf? o.source with
    | some t => s.put o.setting (o.read t)
    | none => s) s

end Environment

end MailFilter
