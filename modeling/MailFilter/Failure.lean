import MailFilter.Match.Kind
import MailFilter.Value.Display

/-!
# Failures

What can go wrong, by cause. A documented error has a message and may carry details, which follow
the message in its text. A fault has no text: an operation met a value that it is not made for.

- `Fault`, `FileError`: values and files that an operation cannot work with.
- `SetError`, `MatchError`, `ScriptError`, `SettingsError`, `MessageError`, `BindingError`: the
  causes of documented errors.
- `Failure`: any of these.
- `Failure.text`: message and details.
-/

namespace MailFilter

/-- Entries that explain an error. -/
abbrev Details := List (Text × Value)

namespace Details

/-- The text of an error: its message, followed by its details if it has any. -/
def describe (message : Text) (details : Details) : Text :=
  if details.isEmpty then message
  else
    let entries := details.map fun (name, value) => (Value.text name, value)
    message ++ " | Details: " ++ (Value.map entries).quoted

end Details

/-- An operation met a value that it is not made for. -/
inductive Fault where
  /-- The value has no such operation, as a number has no letter case. -/
  | noOperation
  /-- The value is of the wrong kind. -/
  | wrongKind
  /-- The value is of the right kind and out of range, as a number with too many digits. -/
  | badValue
  /-- A table has no such entry. -/
  | missingKey
  /-- A sequence has no such position. -/
  | missingPosition
  /-- There is nothing where something was to be counted. -/
  | unset
  /-- A text has no encoding. -/
  | unencodable
  /-- Octets have no decoding. -/
  | undecodable
  /-- A result is too large for the calendar or for a number. -/
  | overflow
  /-- A value is nested too deeply. -/
  | tooDeep
  /-- No directory is known to be the home directory. -/
  | homeless
  deriving DecidableEq, Repr

/-- Why a file or directory cannot be used. -/
inductive FileError where
  | notFound
  | alreadyExists
  | notDirectory
  | isDirectory
  | nameTooLong
  deriving DecidableEq, Repr

namespace FileError

/-- The number and the wording of the reason. -/
def reason : FileError → Text
  | .notFound => "[Errno 2] No such file or directory"
  | .alreadyExists => "[Errno 17] File exists"
  | .notDirectory => "[Errno 20] Not a directory"
  | .isDirectory => "[Errno 21] Is a directory"
  | .nameTooLong => "[Errno 36] File name too long"

/-- The reason with the path that it concerns. -/
def message (e : FileError) (path : Text) : Text :=
  e.reason ++ ": " ++ path.quoted

end FileError

/-- A malformed command that binds a variable. -/
inductive SetError where
  | tooFew (arguments : List Text)
  | tooMany (arguments : List Text)
  | unknownModifier (token : Text)

namespace SetError

/-- The message of the error. -/
def message : SetError → Text
  | .tooFew arguments =>
    "At least 2 arguments are needed. Found arguments: " ++ Text.quotedList arguments
  | .tooMany arguments =>
    "Too many arguments for set. Found arguments: " ++ Text.quotedList arguments
  | .unknownModifier token => "Invalid variable modifier: " ++ token

/-- The argument list or the token that is at fault. -/
def details : SetError → Details
  | .tooFew arguments | .tooMany arguments =>
    [("arguments", .list (arguments.map .text))]
  | .unknownModifier token => [("token", .text token)]

end SetError

/-- A comparison that cannot be made. -/
inductive MatchError where
  | unknownType (given : Text)
  | unknownComparator (given : Value)
  | unsupported (comparator : Comparator) (matchType : MatchType)

namespace MatchError

/-- The message of the error. -/
def message : MatchError → Text
  | .unknownType given => "Unknown match type: " ++ given
  | .unknownComparator given => "Unsupported comparator: " ++ given.plain
  | .unsupported comparator matchType =>
    "Comparator " ++ comparator.name ++ " does not support :" ++ matchType.keyword

/-- What was given. -/
def details : MatchError → Details
  | .unknownType given => [("match_type", .text given)]
  | .unknownComparator given => [("comparator", given)]
  | .unsupported comparator matchType =>
    [("comparator", .text comparator.name), ("match_type", .text matchType.keyword)]

end MatchError

/-- A malformed script. -/
inductive ScriptError where
  | notMapping
  | notText (what : Text) (got : Value)
  | blockNotList (got : Value)
  | notSingleKey (what : Text) (got : Value)
  | missingTest (what : Text) (got : Value)
  | unknownCommand (keyword : Text)
  | missingArgument (keyword : Text)
  | testsNotList (keyword : Text)
  | unknownTest (keyword : Text)
  | testNotMapping (keyword : Text) (got : Value)
  | unsupportedMatch (comparator : Comparator) (matchType : MatchType)
  | unknownAddressPart (given : Text)
  | unparsable
  | unreadable (reason : FileError) (path : Text)
  | notConfigured

namespace ScriptError

/-- The message of the error. -/
def message : ScriptError → Text
  | .notMapping => "Script must be a mapping"
  | .notText what got => what ++ " must be a string, got " ++ got.quoted
  | .blockNotList got => "Command block must be a list, got " ++ got.quoted
  | .notSingleKey what got =>
    "Each " ++ what ++ " must be a single-key mapping, got " ++ got.quoted
  | .missingTest what got => what ++ " requires a test, got " ++ got.quoted
  | .unknownCommand keyword => "Unknown command: " ++ keyword
  | .missingArgument keyword => keyword ++ " requires an argument"
  | .testsNotList keyword => keyword ++ " requires a list of tests"
  | .unknownTest keyword => "Unknown test: " ++ keyword
  | .testNotMapping keyword got => keyword ++ " test requires a mapping, got " ++ got.quoted
  | .unsupportedMatch comparator matchType => (MatchError.unsupported comparator matchType).message
  | .unknownAddressPart given => "Unknown address part: " ++ given
  | .unparsable => "Failed to parse script"
  | .unreadable reason path => "Failed to read script: " ++ reason.message path
  | .notConfigured => "No filter script configured"

/-- What was given, where the message alone does not say it. -/
def details : ScriptError → Details
  | .unknownCommand keyword => [("command", .text keyword)]
  | .unknownTest keyword => [("test", .text keyword)]
  | .unreadable _ path => [("path", .text path)]
  | _ => []

/-- Whether what the message quotes can be shown. -/
def isShowable : ScriptError → Bool
  | .notText _ got | .blockNotList got | .notSingleKey _ got | .missingTest _ got
  | .testNotMapping _ got => got.isShowable
  | _ => true

end ScriptError

/-- Settings that cannot be used. -/
inductive SettingsError where
  | notFound (path : Text)
  | unparsable
  | unreadable (reason : FileError) (path : Text)
  | unwritable (reason : FileError) (path : Text)
  | notMapping (path : Text)
  | sectionNotMapping (name : Text)
  | accountsNotMapping (got : Value)
  | accountNotSwitch (name got : Value)
  | emptyFolder
  | unknownLevel (given : Value)

namespace SettingsError

/-- The message of the error. -/
def message : SettingsError → Text
  | .notFound _ => "Config file not found"
  | .unparsable => "Failed to parse config file"
  | .unreadable reason path => "Failed to read config file: " ++ reason.message path
  | .unwritable reason path => "Failed to save config file: " ++ reason.message path
  | .notMapping _ => "Config file must contain a mapping"
  | .sectionNotMapping name => "Config section '" ++ name ++ "' must be a mapping"
  | .accountsNotMapping got => "variables.accounts must be a mapping, got " ++ got.kindName
  | .accountNotSwitch name got =>
    "variables.accounts." ++ name.plain ++ " must be true or false, got " ++ got.quoted
  | .emptyFolder => "default_folder cannot be empty"
  | .unknownLevel given => "Invalid log level: " ++ given.plain

/-- The file that is at fault. -/
def details : SettingsError → Details
  | .notFound path | .unreadable _ path | .unwritable _ path | .notMapping path =>
    [("path", .text path)]
  | _ => []

/-- Whether what the message quotes can be shown. -/
def isShowable : SettingsError → Bool
  | .accountNotSwitch name got => name.isShowable && got.isShowable
  | _ => true

end SettingsError

/-- A mail that cannot be read. -/
inductive MessageError where
  | unreadable (reason : FileError) (path : Text)

namespace MessageError

/-- The message of the error. -/
def message : MessageError → Text
  | .unreadable reason path => "Failed to read message: " ++ reason.message path

/-- The file that is at fault. -/
def details : MessageError → Details
  | .unreadable _ path => [("path", .text path)]

end MessageError

/-- A binding of the command line that has no name. -/
inductive BindingError where
  | missingName (given : Text)

namespace BindingError

/-- The message of the error. -/
def message : BindingError → Text
  | .missingName given => "Invalid binding (expected NAME=VALUE): " ++ given

end BindingError

/-- Anything that can go wrong. -/
inductive Failure where
  | set (e : SetError)
  | comparison (e : MatchError)
  | script (e : ScriptError)
  | settings (e : SettingsError)
  | mail (e : MessageError)
  | binding (e : BindingError)
  | fault (f : Fault)
  | file (e : FileError)

namespace Failure

/-- Message and details of a documented error. -/
def report? : Failure → Option (Text × Details)
  | .set e => some (e.message, e.details)
  | .comparison e => some (e.message, e.details)
  | .script e => some (e.message, e.details)
  | .settings e => some (e.message, e.details)
  | .mail e => some (e.message, e.details)
  | .binding e => some (e.message, [])
  | .fault _ | .file _ => none

/-- The text of a documented error. -/
def text? (f : Failure) : Option Text :=
  f.report?.map fun report => report.2.describe report.1

/-- Refuses a script for a cause; a cause that quotes what cannot be shown is a fault itself. -/
def refuseScript {α : Type} (e : ScriptError) : Except Failure α :=
  .error (if e.isShowable then .script e else .fault .badValue)

/-- Refuses settings for a cause; a cause that quotes what cannot be shown is a fault itself. -/
def refuseSettings {α : Type} (e : SettingsError) : Except Failure α :=
  .error (if e.isShowable then .settings e else .fault .badValue)

end Failure

end MailFilter
