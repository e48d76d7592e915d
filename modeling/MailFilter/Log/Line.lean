import MailFilter.Calendar
import MailFilter.Json.Value
import MailFilter.Log.Record

/-!
# Lines of the log

A record is written as an object on one line, as a coloured line for a terminal, as a plain line, or
as its bare message.

- `LogEntry`: a record with the place in the program that it comes from.
- `LogEntry.json`, `LogEntry.jsonLine`: the object and its line.
- `LogEntry.coloured`, `LogEntry.plain`, `LogEntry.bare`: the other lines.
- `LogEntry.sourceOfPath`: the name of a part of the program by its file.
-/

namespace MailFilter

/-- A record with the place in the program that it comes from. -/
structure LogEntry extends LogRecord where
  source : Text
  operation : Option Text
  line : Int
  /-- What went wrong, if the record reports it. -/
  trouble : Option Text := none

namespace LogEntry

/-- The entries of the context as an object. -/
def contextJson (context : LogContext) : Json :=
  .object (context.map fun (name, v) => (name, v.toJson))

/-- The record as an object. A member that would be empty is left out. -/
def json (e : LogEntry) (clock : Moment) : Json :=
  let trouble : List (Text × Json) := e.trouble.toList.map fun t => ("exception", .text t)
  let data : List (Text × Json) :=
    if e.context.isEmpty then [] else [("data", contextJson e.context)]
  let always : List (Text × Json) :=
    [("timestamp", .text (clock.iso "T")), ("level", .text e.level.name),
      ("logger", .text e.logger), ("message", .text e.message), ("module", .text e.source),
      ("function", (e.operation.map Json.text).getD .null), ("line", .int e.line)]
  .object (always ++ trouble ++ data)

/-- The line of the object. -/
def jsonLine (e : LogEntry) (clock : Moment) : Text :=
  (e.json clock).write .unicode

/-- A sequence that changes how a terminal shows what follows. -/
def terminal (code : Text) : Text :=
  "\x1B[" ++ code ++ "m"

/-- The colours of levels. -/
def colours : List (Level × Text) :=
  [(.debug, "36"), (.info, "32"), (.warning, "33"), (.error, "31"), (.critical, "35")]

/-- What makes a terminal show a level in its colour. -/
def colourOf (level : Level) : Text :=
  match colours.find? fun (known, _) => known = level with
  | some (_, code) => terminal code
  | none => []

/-- The record as a coloured line. -/
def coloured (e : LogEntry) (clock : Moment) : Text :=
  let time := { clock with micro := 0, offset := none }.iso " "
  let pairs := e.context.map fun (name, v) => name ++ "=" ++ v.plain
  let context : Text := if pairs.isEmpty then [] else " [" ++ Text.join " " pairs ++ "]"
  colourOf e.level ++ terminal "1" ++ "[" ++ e.level.name ++ "]" ++ terminal "0" ++ " " ++ time ++
    " | " ++ e.logger ++ ":" ++ Text.ofInt e.line ++ " | " ++ e.message ++ context ++
    (e.trouble.map fun t => .char '\n' :: t).getD []

/-- A line and what went wrong, which begins a line of its own. -/
def withTrouble (e : LogEntry) (line : Text) : Text :=
  match e.trouble with
  | none => line
  | some t => line ++ (if line.getLast? = some (.char '\n') then t else .char '\n' :: t)

/-- The record as a plain line, with a time in front. -/
def plain (e : LogEntry) (time : Text) : Text :=
  e.withTrouble (time ++ " | " ++ Text.fillRight 8 e.level.name ++ " | " ++ e.logger ++ ":" ++
    Text.ofInt e.line ++ " | " ++ e.message)

/-- The message of the record alone. -/
def bare (e : LogEntry) : Text :=
  e.withTrouble e.message

/-- The name of a part of the program by its file: the last name of the path without its ending. -/
def sourceOfPath (path : Text) : Text :=
  let name := ((Text.cutLast? (.char '/') path).map Prod.snd).getD path
  match Text.cutLast? (.char '.') name with
  | some (before, _) => if before.all (· = .char '.') then name else before
  | none => name

end LogEntry

end MailFilter
