import MailFilter.Files.Tree
import MailFilter.Log.Line

/-!
# The recorder

What becomes of records. The handlers of the program stand at the root of its loggers: one writes on
the console, one into a file. Once they have been set up, setting them up again changes nothing. A
record that has no handler, since none has been set up or since its logger is not below the root, is
left to the last resort, which writes the bare message on the console if it is grave enough.

- `Logger.fullName`: the name that a logger is asked for by.
- `Recorder`: where records go.
- `Recorder.setUp`: the handlers are set up.
- `Recorder.log`: what the handlers do with a record.
- `Recorder.lastResort`: what is written on the console of a record that has no handler.
- `Recorder.log_of_not_enabled`: what is not grave enough leaves no trace.
- `Recorder.lastResort_eq_nil`: the last resort leaves alone what the handlers take.
-/

namespace MailFilter

namespace Logger

/-- The name above all loggers of the program. -/
def rootName : Text := "sieve_vars"

/-- The name of a logger, put below the root. A name that begins like the root stays. -/
def fullName (name : Text) : Text :=
  if name.startsWith rootName then name else rootName ++ "." ++ name

/-- Whether a logger is the root or below it. -/
def isBelowRoot (name : Text) : Bool :=
  name = rootName || name.startsWith (rootName ++ ".")

end Logger

namespace Level

/-- The words for levels that a recorder can be set to. -/
def words : List (Text × Level) :=
  ("WARN", warning) :: ("FATAL", critical) :: named

/-- Words of another meaning, and why a recorder cannot be set to them. -/
def reserved : List (Text × Fault) :=
  [("BASIC_FORMAT", .badValue), ("_STYLES", .wrongKind)]

/-- The level of a word in letters of any case; an unknown word means the level of what is worth
knowing. -/
def ofWord (t : Text) : Except Fault Level :=
  let word := t.upper
  match reserved.find? fun (known, _) => known = word with
  | some (_, f) => .error f
  | none =>
    match words.find? fun (known, _) => known = word with
    | some (_, level) => .ok level
    | none => .ok info

end Level

/-- A file of records. -/
structure LogFile where
  path : Path
  isJson : Bool

/-- How a recorder is set up. -/
structure LogSetup where
  directory : Value := .null
  level : Value := .text "INFO"
  isJson : Bool := false
  toConsole : Bool := true

/-- Where records go. -/
structure Recorder where
  files : FileTree := FileTree.empty
  /-- Less grave records of the program are dropped. The lowest level leaves the choice to the
  system. -/
  level : Level := ⟨0⟩
  toConsole : Bool := false
  file : Option LogFile := none
  isSetUp : Bool := false
  context : LogContext := []

namespace Recorder

/-- The name of the file of records in its directory. -/
def fileName : Path := Path.ofText "sieve-vars.log"

/-- Makes the file of records. A directory is needed only if it is neither empty nor missing. -/
def openFile (r : Recorder) (directory : Value) (isJson : Bool) : Except Failure Recorder :=
  if !directory.isTruthy then .ok { r with file := none }
  else
    match directory with
    | .text t => do
      let path := Path.ofText t
      let files ← r.files.makeDirectories path
      let path := path / fileName
      let files ←
        match files.read path with
        | .error (.file .notFound) => files.write path []
        | .error e => .error e
        | .ok _ => .ok files
      return { r with files, file := some ⟨path, isJson⟩ }
    | _ => .error (.fault .wrongKind)

/-- Sets the level. -/
def setLevel (r : Recorder) : Value → Except Failure Recorder
  | .text t =>
    match Level.ofWord t with
    | .ok level => .ok { r with level }
    | .error f => .error (.fault f)
  | _ => .error (.fault .noOperation)

/-- Sets the recorder up, unless it has been set up before. A recorder that cannot be set up keeps
what has been done until then. -/
def setUp (r : Recorder) (s : LogSetup) : Except Failure Unit × Recorder :=
  if r.isSetUp then (.ok (), r)
  else
    match r.setLevel s.level with
    | .error e => (.error e, r)
    | .ok r =>
      let r := { r with toConsole := s.toConsole, file := none }
      match r.openFile s.directory s.isJson with
      | .error e => (.error e, r)
      | .ok r => (.ok (), { r with isSetUp := true })

/-- Adds to the context of the following records. -/
def enter (r : Recorder) (entries : LogContext) : Recorder :=
  { r with context := r.context.update entries }

/-- Empties the context. -/
def leave (r : Recorder) : Recorder :=
  { r with context := [] }

/-- The level below which records of a logger are dropped. -/
def threshold (r : Recorder) (logger : Text) : Level :=
  if Logger.isBelowRoot logger && r.level.rank ≠ 0 then r.level else .warning

/-- Whether a record of a logger is handled. -/
def isEnabled (r : Recorder) (logger : Text) (level : Level) : Bool :=
  (r.threshold logger).rank ≤ level.rank

/-- Less grave records are not written anywhere. -/
def leastWritten : Level := .debug

/-- Whether a record of a logger is written. -/
def isWritten (r : Recorder) (logger : Text) (level : Level) : Bool :=
  r.isEnabled logger level && Logger.isBelowRoot logger && leastWritten.rank ≤ level.rank

/-- Hands a record to the handlers, and answers what the handler of the console writes. Nothing of
the last resort is in it. -/
def log (r : Recorder) (clock : Moment) (time : Text) (e : LogEntry) : Text × Recorder :=
  if !r.isWritten e.logger e.level then ([], r)
  else
    let e := { e with context := r.context }
    let console : Text := if r.toConsole then e.coloured clock ++ [.char '\n'] else []
    match r.file with
    | none => (console, r)
    | some file =>
      let line := (if file.isJson then e.jsonLine clock else e.plain time) ++ [.char '\n']
      let before := (r.files.read file.path).toOption.getD []
      match r.files.write file.path (before ++ (Utf8.encode? line).getD []) with
      | .ok files => (console, { r with files })
      | .error _ => (console, r)

/-- Whether the records of a logger have a handler. -/
def hasHandler (r : Recorder) (logger : Text) : Bool :=
  Logger.isBelowRoot logger && (r.toConsole || r.file.isSome)

/-- What the last resort writes on the console: the bare message of a record that has no handler, if
it is grave enough for that. -/
def lastResort (r : Recorder) (e : LogEntry) : Text :=
  if r.isEnabled e.logger e.level && !r.hasHandler e.logger && Level.warning.rank ≤ e.level.rank then
    e.bare ++ [.char '\n']
  else []

/-- What is not grave enough leaves no trace. -/
theorem log_of_not_enabled (r : Recorder) (clock : Moment) (time : Text) (e : LogEntry)
    (h : r.isEnabled e.logger e.level = false) :
    r.log clock time e = ([], r) ∧ r.lastResort e = [] := by
  simp [log, isWritten, lastResort, h]

/-- The last resort leaves alone what the handlers take. -/
theorem lastResort_eq_nil {r : Recorder} {e : LogEntry} (h : r.hasHandler e.logger = true) :
    r.lastResort e = [] := by
  simp [lastResort, h]

end Recorder

end MailFilter
