import MailFilter.Message.Basic
import MailFilter.Message.Date
import MailFilter.Message.Identifier
import MailFilter.Message.MediaType

/-!
# Reading messages

A message begins with its header fields, one to a line; a line that begins with a blank continues the
field before it. The first line that is neither ends the fields. How the value of a field is read
depends on its name.

- `FieldKind`, `FieldKind.ofName`: how values are read.
- `FieldKind.read`: the text of a field from its value.
- `Message.ofText`, `Message.ofOctets`: the message that a text or a file holds.
-/

namespace MailFilter

/-! ## Values -/

/-- How the value of a field is read. -/
inductive FieldKind where
  | free
  | date
  | addresses
  | identifier
  | version
  | mediaType
  | disposition
  | encoding
  deriving DecidableEq

namespace FieldKind

/-- The fields that hold recipients or senders. -/
def recipientFields : List Text :=
  ["sender", "resent-sender", "to", "resent-to", "cc", "resent-cc", "bcc", "resent-bcc", "from",
    "resent-from", "reply-to"]

/-- How the value of a field is read, by the name of the field. -/
def ofName (name : Text) : FieldKind :=
  let name := name.lower
  if recipientFields.contains name then .addresses
  else if [("date" : Text), "resent-date", "orig-date"].contains name then .date
  else if name = "message-id" then .identifier
  else if name = "mime-version" then .version
  else if name = "content-type" then .mediaType
  else if name = "content-disposition" then .disposition
  else if name = "content-transfer-encoding" then .encoding
  else .free

/-- The outcome of a reading that leaves nothing behind. -/
def settle : Reading Text → Except Fault Text
  | .ok t => .ok t
  | .error .absent => .ok []
  | .error (.fault f) => .error f

/-- Reads octets that were kept as lone surrogates as UTF-8. -/
def restore (t : Text) : Except Fault Text :=
  if t.all fun c => c matches .char _ then .ok t
  else match Utf8.encodeKeeping? t with
  | some octets => .ok (Utf8.decodeReplacing octets)
  | none => .error .unencodable

/-- The text of a field from its value. -/
def read (kind : FieldKind) (value : Text) : Except Fault Text := do
  restore (← match kind with
    | .free => .ok (FreeText.read value)
    | .date => MailDate.read value
    | .addresses =>
      match Recipient.readAll value with
      | .ok recipients => Recipient.shownAll recipients
      | .error .absent => .ok []
      | .error (.fault f) => .error f
    | .identifier => Identifier.readField value
    | .version => .ok (MediaType.readVersion value)
    | .mediaType => settle (MediaType.readType value)
    | .disposition => settle (MediaType.readDisposition value)
    | .encoding => settle (MediaType.readEncoding value))

end FieldKind

/-! ## Lines -/

namespace Message

/-- The lines of a text with their ends: a line feed, a carriage return, or both. -/
def lines (t : Text) : List Text :=
  go [] t
where
  /-- Adds code points to the line read so far, which is kept in reverse. -/
  go (done : Text) : Text → List Text
    | [] => if done.isEmpty then [] else [done.reverse]
    | .char '\r' :: .char '\n' :: rest =>
      (.char '\n' :: .char '\r' :: done).reverse :: go [] rest
    | c :: rest =>
      if isLineMark c then (c :: done).reverse :: go [] rest else go (c :: done) rest
  /-- A line feed or a carriage return. -/
  isLineMark (c : CodePoint) : Bool :=
    c = .char '\n' || c = .char '\r'

/-- A code point of the name of a field. -/
def isNameMark (c : CodePoint) : Bool :=
  c.isIn [(0x21, 0x39), (0x3B, 0x7E)]

/-- Whether a line begins like an envelope. -/
def isEnvelope (line : Text) : Bool :=
  Text.startsWith line "From "

/-- Whether a line continues the field before it. -/
def isContinuation (line : Text) : Bool :=
  line.head?.any CodePoint.isSpace

/-- The name of the field that a line begins and the rest of the line, if it begins one. -/
def fieldStart? (line : Text) : Option (Text × Text) :=
  match line.dropWhile isNameMark with
  | .char ':' :: rest => some (line.takeWhile isNameMark, rest)
  | _ => none

/-- Whether a line belongs to the header. -/
def isHeaderLine (line : Text) : Bool :=
  isEnvelope line || isContinuation line || (fieldStart? line).isSome

/-- The value of a field from its lines. -/
def valueOf (first : Text) (continuation : List Text) : Text :=
  (first.dropWhile CodePoint.isSpace ++ continuation.flatten).filter (!lines.isLineMark ·)

/-- The field of a name with a value as it is written. What has been made out is text. -/
def fieldOf (name value : Text) : Field :=
  ⟨name, ((FieldKind.ofName name).read value).map .ok⟩

/-- The fields that lines hold, and their names. An envelope and a line without a name are passed
over with their continuations; an envelope on the last line but the first ends the fields. -/
def namedValues : List Text → List (Text × Text)
  | [] => []
  | line :: rest =>
    let continuation := rest.takeWhile isContinuation
    let others := namedValues (rest.dropWhile isContinuation)
    if isContinuation line || isEnvelope line then others
    else match fieldStart? line with
    | some (name, first) =>
      if name.isEmpty then others else (name, valueOf first continuation) :: others
    | none => others
termination_by lines => lines.length
decreasing_by
  have := (List.dropWhile_suffix (l := rest) isContinuation).length_le
  simp only [List.length_cons]
  omega

/-- The message that a text holds. What a media type is, is needed to read a message at all. -/
def ofText (t : Text) : Except Fault Message := do
  let fields := (namedValues ((lines t).takeWhile isHeaderLine)).map fun (name, value) =>
    fieldOf name value
  let m : Message := ⟨fields⟩
  let _ ← m.value? "content-type"
  return m

/-- The message that octets hold. -/
def ofOctets (octets : Octets) : Except Fault Message :=
  ofText (Utf8.decodeAsciiKeeping octets)

end Message

end MailFilter
