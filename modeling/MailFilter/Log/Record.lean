import MailFilter.Assoc
import MailFilter.Value.Basic

/-!
# Log records

- `Level`: how grave a record is, as a number.
- `Level.name`: the name of a level.
- `LogContext`: what a record is about; the entries that hold while a delivery is under way.
- `LogRecord`: a message with its level, its logger and its context.
- `Journal`: the records so far and the context of the next ones.
-/

namespace MailFilter

/-- How grave a record is. -/
structure Level where
  rank : Int
  deriving DecidableEq, Inhabited, Repr

namespace Level

/-- Of interest when looking for the cause of something. -/
def debug : Level := ⟨10⟩

/-- Worth knowing. -/
def info : Level := ⟨20⟩

/-- Something is not as it should be. -/
def warning : Level := ⟨30⟩

/-- Something failed. -/
def error : Level := ⟨40⟩

/-- Nothing works any more. -/
def critical : Level := ⟨50⟩

/-- The levels that have a name. -/
def named : List (Text × Level) :=
  [("DEBUG", debug), ("INFO", info), ("WARNING", warning), ("ERROR", error),
    ("CRITICAL", critical), ("NOTSET", ⟨0⟩)]

/-- The name of a level, or its number. -/
def name (l : Level) : Text :=
  match named.find? fun (_, m) => m = l with
  | some (name, _) => name
  | none => "Level " ++ Text.ofInt l.rank

end Level

/-- What a record is about. -/
abbrev LogContext := Assoc Text Value

/-- A message in the log. -/
structure LogRecord where
  level : Level
  logger : Text
  message : Text
  context : LogContext

/-- The records so far, and the context of the next ones. -/
structure Journal where
  records : List LogRecord
  context : LogContext
  deriving Inhabited

namespace Journal

/-- Nothing has been recorded. -/
def empty : Journal := ⟨[], []⟩

/-- Records a message in the present context. -/
def write (j : Journal) (level : Level) (logger message : Text) : Journal :=
  { j with records := j.records ++ [⟨level, logger, message, j.context⟩] }

/-- Adds to the context. -/
def enter (j : Journal) (entries : LogContext) : Journal :=
  { j with context := j.context.update entries }

/-- Empties the context. -/
def leave (j : Journal) : Journal :=
  { j with context := [] }

@[simp] theorem context_write (j : Journal) (level : Level) (logger message : Text) :
    (j.write level logger message).context = j.context := rfl

@[simp] theorem records_write (j : Journal) (level : Level) (logger message : Text) :
    (j.write level logger message).records =
      j.records ++ [⟨level, logger, message, j.context⟩] := rfl

end Journal

end MailFilter
