import MailFilter.Message.Mailbox

/-!
# Message identifiers

An identifier is written `<left@right>`. Its written form spells fill and quotations in one way; what
follows the closing bracket is dropped. A field that holds no identifier is read as free text.

- `Identifier.read`: the written form of an identifier.
- `Identifier.readField`: the text of a field that holds an identifier.
-/

namespace MailFilter

namespace Identifier

/-- Reads the part before the at sign. -/
def readLeft (t : Text) : Reading (Text × Text) :=
  Reading.orElse ((Core.readDotted t).map fun (core, rest) => (core.written, rest)) fun _ =>
    (LocalPart.readAllParts t).map fun (parts, rest) => (parts.flatMap Part.written, rest)

/-- Reads a literal in brackets without fill. -/
def readLiteral (t : Text) : Reading (Text × Text) := do
  match t with
  | .char '[' :: t =>
    match ← Domain.readDigits t with
    | (digits, .char ']' :: rest) => return ("[" ++ digits ++ "]", rest)
    | _ => .error .absent
  | _ => .error .absent

/-- Reads a domain, which has to have its end. -/
def readDomain (t : Text) : Reading (Text × Text) := do
  let (domain, rest) ← Domain.read t
  if domain.isClosed then return (domain.written, rest) else Reading.cutOff .noOperation

/-- Reads the part after the at sign. -/
def readRight (t : Text) : Reading (Text × Text) :=
  Reading.orElse ((Core.readDotted t).map fun (core, rest) => (core.written, rest)) fun _ =>
    Reading.orElse (readLiteral t) fun _ => readDomain t

/-- The written form of an identifier. The closing bracket is supplied where it is missing. -/
def read (t : Text) : Reading Text := do
  let (before, t) := Fill.read? t
  match t with
  | .char '<' :: t =>
    let (left, rest) ← readLeft t
    let start := before.getD [] ++ "<" ++ left
    match rest with
    | .char '@' :: rest =>
      let (right, rest) ← readRight rest
      let after := if rest.head? = some (.char '>') then rest.drop 1 else rest
      return start ++ "@" ++ right ++ ">" ++ (Fill.read? after).1.getD []
    | .char '>' :: _ => return start ++ ">"
    | _ => return start
  | _ => .error .absent

/-- The text of a field that holds an identifier. -/
def readField (t : Text) : Except Fault Text :=
  match read t with
  | .ok id => .ok id
  | .error .absent => .ok (FreeText.read t)
  | .error (.fault f) => .error f

end Identifier

end MailFilter
