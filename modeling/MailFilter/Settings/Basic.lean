import MailFilter.Failure
import MailFilter.Value.Shared

/-!
# Settings

Settings come in three sections beside the settings of the program as a whole. A file may give any
setting any value; what is used of it is checked afterwards, and only where a wrong value would do
harm. A file may even bar the check.

- `VariablesSettings`, `FilterSettings`, `LogSettings`, `Settings`: the sections and the whole.
- `VariablesSettings.enabledFor`: whether variables are enabled for an account.
- `Settings.validate`: the check.
-/

namespace MailFilter

/-- Who may use variables. -/
structure VariablesSettings where
  /-- The switch for all accounts without one of their own. -/
  enabled : Value := .bool true
  /-- Switches of single accounts, by name. -/
  accounts : Value := .map []
  /-- What bars the check of the section. -/
  checkBar : Option Fault := none
  /-- What bars the question whether variables are enabled. -/
  switchBar : Option Fault := none
  /-- What has taken the place of the list of the settings. -/
  listing : Option Value := none
  deriving Inhabited

/-- Which script runs, and where kept mail goes. -/
structure FilterSettings where
  scriptPath : Value := .text []
  defaultFolder : Value := .text "INBOX"
  /-- What bars the check of the section. -/
  checkBar : Option Fault := none
  /-- What has taken the place of the list of the settings. -/
  listing : Option Value := none
  deriving Inhabited

/-- What is logged, and how. -/
structure LogSettings where
  level : Value := .text "INFO"
  jsonFormat : Value := .bool false
  consoleOutput : Value := .bool true
  /-- What bars the check of the section. -/
  checkBar : Option Fault := none
  /-- What has taken the place of the list of the settings. -/
  listing : Option Value := none
  deriving Inhabited

/-- All settings. Those outside the sections may share parts of their values. -/
structure Settings where
  appName : Datum := .plain (.text "Sieve Variables Engine")
  version : Datum := .plain (.text "1.0.0")
  debug : Datum := .plain (.bool false)
  vars : VariablesSettings := {}
  filter : FilterSettings := {}
  log : LogSettings := {}
  /-- The directory of the settings file, unless another file is named. -/
  directory : Text := []
  logDirectory : Datum := .plain (.text [])
  deriving Inhabited

/-- Performs an operation unless something bars it. -/
def unlessBarred {ε α : Type} (bar : Option ε) (operation : Except ε α) : Except ε α :=
  match bar with
  | some e => .error e
  | none => operation

namespace VariablesSettings

/-- The switch of the first account of a name. Only texts have letters to compare. -/
def accountSwitch? (account : Text) : List (Value × Value) → Except Fault (Option Value)
  | [] => .ok none
  | (.text name, switch) :: rest =>
    if name.lower = account.lower then .ok (some switch) else accountSwitch? account rest
  | (.octets _, _) :: rest => accountSwitch? account rest
  | _ :: _ => .error .noOperation

/-- Whether variables are enabled for an account, or for all without a switch of their own. -/
def enabledFor (s : VariablesSettings) (account : Option Text) : Except Fault Bool :=
  unlessBarred s.switchBar <|
  match account with
  | none | some [] => .ok s.enabled.isTruthy
  | some name =>
    match s.accounts with
    | .map entries => (accountSwitch? name entries).map fun switch =>
        (switch.getD s.enabled).isTruthy
    | _ => .error .noOperation

/-- Refuses the first account whose switch is neither true nor false. -/
def validateAccounts : List (Value × Value) → Except Failure Unit
  | [] => .ok ()
  | (_, .bool _) :: rest => validateAccounts rest
  | (name, switch) :: _ => Failure.refuseSettings (.accountNotSwitch name switch)

/-- Checks the switches of accounts. -/
def validate (s : VariablesSettings) : Except Failure Unit :=
  unlessBarred (s.checkBar.map .fault) <|
  match s.accounts with
  | .map entries => validateAccounts entries
  | v => Failure.refuseSettings (.accountsNotMapping v)

end VariablesSettings

namespace FilterSettings

/-- Refuses an empty default folder. -/
def validate (s : FilterSettings) : Except Failure Unit :=
  unlessBarred (s.checkBar.map .fault) <|
  if s.defaultFolder.isTruthy then .ok () else Failure.refuseSettings .emptyFolder

end FilterSettings

namespace LogSettings

/-- The names of levels. -/
def levels : List Text := ["DEBUG", "INFO", "WARNING", "ERROR", "CRITICAL"]

/-- Refuses an unknown level. -/
def validate (s : LogSettings) : Except Failure Unit :=
  unlessBarred (s.checkBar.map .fault) <|
  match s.level with
  | .text t =>
    if levels.contains t.upper then .ok () else Failure.refuseSettings (.unknownLevel s.level)
  | .octets _ => Failure.refuseSettings (.unknownLevel s.level)
  | _ => .error (.fault .noOperation)

end LogSettings

namespace Settings

/-- Checks the sections, one after the other. -/
def validate (s : Settings) : Except Failure Unit := do
  s.vars.validate
  s.filter.validate
  s.log.validate

end Settings

end MailFilter
