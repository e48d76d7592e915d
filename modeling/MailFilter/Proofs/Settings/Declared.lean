import MailFilter.Settings.Reading

/-!
# Declared settings

A settings file can give eleven settings, four of them outside of all sections. Each is declared with
a kind and has a usual value; the kind is a promise that nothing in the reading of a file keeps by
itself.

- `Settings.Part`: a section of a settings file.
- `Setting`: a setting, with its name, its section and its usual value.
- `Setting.value`: its value in the settings as a whole.
- `Setting.admits`: whether a value is of the declared kind.
- `Settings.IsTyped`: every setting is of its kind; the usual ones are.
-/

namespace MailFilter

namespace Settings

/-- A section of a settings file. -/
inductive Part where
  | vars
  | filter
  | log
  deriving DecidableEq

namespace Part

/-- The name of the section in a file. -/
def name : Part → Text
  | .vars => "variables"
  | .filter => "filter"
  | .log => "logging"

/-- The section before anything is read. -/
def initial : Part → Section
  | .vars => VariablesSettings.initial
  | .filter => FilterSettings.initial
  | .log => LogSettings.initial

end Part

/-- The usual directory of log files. -/
def usualLogDirectory (directory : Path) : Text :=
  (Path.ofText directory.text / Path.ofText "logs").text

end Settings

/-- A setting that a settings file can give. -/
inductive Setting where
  | appName
  | version
  | debug
  | logDirectory
  | enabled
  | accounts
  | scriptPath
  | defaultFolder
  | level
  | jsonFormat
  | consoleOutput
  deriving DecidableEq

namespace Setting

/-- Every setting. -/
def all : List Setting :=
  [.appName, .version, .debug, .logDirectory, .enabled, .accounts, .scriptPath, .defaultFolder,
    .level, .jsonFormat, .consoleOutput]

theorem mem_all (st : Setting) : st ∈ all := by
  cases st <;> decide

/-- The section that a setting stands in, if it stands in one. -/
def part? : Setting → Option Settings.Part
  | .appName | .version | .debug | .logDirectory => none
  | .enabled | .accounts => some .vars
  | .scriptPath | .defaultFolder => some .filter
  | .level | .jsonFormat | .consoleOutput => some .log

/-- The name of a setting in a file. -/
def name : Setting → Text
  | .appName => "app_name"
  | .version => "version"
  | .debug => "debug"
  | .logDirectory => "log_dir"
  | .enabled => "enabled"
  | .accounts => "accounts"
  | .scriptPath => "script_path"
  | .defaultFolder => "default_folder"
  | .level => "level"
  | .jsonFormat => "json_format"
  | .consoleOutput => "console_output"

/-- The value of a setting that no file gives. -/
def usual (directory : Path) : Setting → Value
  | .appName => .text "Sieve Variables Engine"
  | .version => .text "1.0.0"
  | .debug => .bool false
  | .logDirectory => .text (Settings.usualLogDirectory directory)
  | .enabled => .bool true
  | .accounts => .map []
  | .scriptPath => .text []
  | .defaultFolder => .text "INBOX"
  | .level => .text "INFO"
  | .jsonFormat => .bool false
  | .consoleOutput => .bool true

/-- The value of a setting. -/
def value (s : Settings) : Setting → Value
  | .appName => s.appName.value
  | .version => s.version.value
  | .debug => s.debug.value
  | .logDirectory => s.logDirectory.value
  | .enabled => s.vars.enabled
  | .accounts => s.vars.accounts
  | .scriptPath => s.filter.scriptPath
  | .defaultFolder => s.filter.defaultFolder
  | .level => s.log.level
  | .jsonFormat => s.log.jsonFormat
  | .consoleOutput => s.log.consoleOutput

/-! ## Kinds -/

/-- Whether a value is true or false. -/
def isSwitch : Value → Bool
  | .bool _ => true
  | _ => false

/-- Whether a value is a text. -/
def isText : Value → Bool
  | .text _ => true
  | _ => false

theorem exists_text {v : Value} (h : isText v = true) : ∃ t, v = .text t := by
  cases v with
  | text t => exact ⟨t, rfl⟩
  | _ => cases h

/-- Whether a value is a mapping to truth values. -/
def areSwitches : Value → Bool
  | .map entries => entries.all fun (_, v) => isSwitch v
  | _ => false

/-- Whether a value is of the kind that a setting is declared with. -/
def admits : Setting → Value → Bool
  | .debug | .enabled | .jsonFormat | .consoleOutput => isSwitch
  | .accounts => areSwitches
  | .appName | .version | .logDirectory | .scriptPath | .defaultFolder | .level => isText

/-- Every usual value is of its kind. -/
theorem admits_usual (directory : Path) (st : Setting) : st.admits (st.usual directory) = true := by
  cases st <;> rfl

end Setting

/-- Every setting is of the kind that it is declared with. -/
def Settings.IsTyped (s : Settings) : Prop :=
  ∀ st : Setting, st.admits (st.value s) = true

end MailFilter
