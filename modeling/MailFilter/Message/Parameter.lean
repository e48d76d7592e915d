import MailFilter.Message.Word
import MailFilter.Text.Integer

/-!
# Parameters of media types

A parameter is a name and a value. A long value may be written in numbered sections, and one with
letters beyond ASCII in percent escapes, the first section naming the character set.

- `Parameter`: a parameter as it is written.
- `Parameter.readAll`: reads parameters separated by semicolons.
- `Parameter.values`: the values by name, sections being put together.
- `Parameter.shownAll`: the values as text.
-/

namespace MailFilter

namespace CodePoint

/-- Ends a token. -/
def endsToken (c : CodePoint) : Bool :=
  (c.endsAtom && c ≠ .char '.') || c = .char '/' || c = .char '?' || c = .char '='

/-- Ends a value in percent escapes. -/
def endsEscaped (c : CodePoint) : Bool :=
  c.endsToken || c = .char '*' || c = .char '\''

/-- Ends the name of a parameter. -/
def endsAttribute (c : CodePoint) : Bool :=
  c.endsEscaped || c = .char '%'

end CodePoint

/-- A parameter as it is written. -/
structure Parameter where
  name : Text
  /-- The number of the section. -/
  place : Nat := 0
  /-- Whether the value is in percent escapes. -/
  escaped : Bool := false
  charset : Text := "us-ascii"
  value : Except Fault Text := .ok []

namespace Parameter

/-- The code points at the beginning of a text before one of a class, of which there has to be
one. -/
def readRun (ends : CodePoint → Bool) (t : Text) : Reading (Text × Text) :=
  match t.takeWhile (!ends ·) with
  | [] => .error .absent
  | run => .ok (run, t.drop run.length)

/-- Reads a run of code points with the fill on both sides of it. -/
def readAttribute (ends : CodePoint → Bool) (t : Text) : Reading (Word × Text) := do
  let (before, t) := Fill.read? t
  let (run, rest) ← readRun ends t
  let (after, rest) := Fill.read? rest
  return (⟨before, .atom run, after⟩, rest)

/-- Reads a quotation or a value in percent escapes. -/
def readValue (t : Text) : Reading (Word × Text) := do
  let (before, t) := Fill.read? t
  match t with
  | [] => .error .absent
  | .char '"' :: rest => Word.ofCore before (.ok (Core.readQuoted rest))
  | t => readAttribute CodePoint.endsEscaped t

/-- Reads the number of a section behind its asterisk. -/
def readPlace? : Text → Except Fault (Option (Nat × Text))
  | .char '*' :: t =>
    let digits := t.takeWhile CodePoint.isDigit
    if digits.isEmpty then .ok none
    else if digitLimit < digits.length then .error .badValue
    else .ok (some (Text.digitsValue digits, t.drop digits.length))
  | _ => .ok none

/-- Reads a name and what is said about its value, and answers whether a value follows. -/
def readHead (t : Text) : Reading (Parameter × Bool × Text) := do
  let (name, rest) ← readAttribute CodePoint.endsAttribute t
  let p : Parameter := { name := Text.strip name.core.written }
  match rest with
  | [] | .char ';' :: _ => return (p, false, rest)
  | .char '*' :: _ =>
    -- behind the asterisk stands the number of a section, a second asterisk, or both
    let place ← (readPlace? rest).mapError .fault
    let (p, rest) : Parameter × Text :=
      match place with
      | some (n, rest) => ({ p with place := n }, rest)
      | none => (p, rest)
    if rest.isEmpty then .error .absent
    let (p, rest) : Parameter × Text :=
      if rest.head? = some (.char '*') then ({ p with escaped := true }, rest.drop 1)
      else (p, rest)
    if rest.isEmpty then Reading.cutOff .missingPosition
    afterName p rest
  | rest => afterName p rest
where
  /-- Passes over the equals sign and the fill behind it. -/
  afterName (p : Parameter) (t : Text) : Reading (Parameter × Bool × Text) :=
    match t with
    | .char '=' :: rest => .ok (p, true, (Fill.read? rest).2)
    | _ => .error .absent

/-- The meaning of a quotation whose content is in percent escapes: blanks are collapsed. -/
def unquoted (t : Text) : Except Fault Text :=
  if t.isEmpty then .error .missingPosition else .ok (Core.collapseFrom t.length t)

/-- Reads a character set and a language, each with a quote behind it. -/
def readCharset (charset : Option Text) (p : Parameter) (t : Text) :
    Reading (Parameter × Text) := do
  match t with
  | .char '\'' :: t =>
    let p := { p with charset := charset.getD p.charset }
    match t with
    | [] => return (p, [])
    | .char '\'' :: rest => return (p, rest)
    | t =>
      let (_, rest) ← readRun CodePoint.endsAttribute t
      match rest with
      | .char '\'' :: rest => return (p, rest)
      | _ => .error .absent
  | _ => .error .absent

/-- Whether the content of a quotation is a value in percent escapes. -/
def holdsEscaped (p : Parameter) (content : Text) : Reading Bool := do
  if p.place = 0 then
    if content.head? = some (.char '\'') then return true
    let (_, rest) ← readRun CodePoint.endsAttribute content
    return rest.head? = some (.char '\'')
  else
    return !content.isEmpty && content.all (!·.endsEscaped)

/-- Reads the value of a parameter whose value is not in percent escapes, or is one of the further
sections, or has no character set. -/
def readBody (p : Parameter) (t : Text) : Reading (Parameter × Text) := do
  let startsQuote (t : Text) : Bool := t.head? = some (.char '\'')
  let (token, rest) : Option Word × Text ←
    if startsQuote t then .ok (none, t) else (readValue t).map fun (w, rest) => (some w, rest)
  let given := { p with value := .ok ((token.map fun w => w.core.meaning).getD []) }
  -- what was read is the value, unless it turns out to be a character set
  if rest.isEmpty || ((!p.escaped || 0 < p.place) && !startsQuote rest) then return (given, rest)
  let (p, rest) ← readCharset (token.map Word.meaning) p rest
  let (value, rest) ← readValue rest
  return ({ p with value := .ok value.core.meaning }, rest)

/-- Reads the content of a quotation as a value in percent escapes. -/
def readQuotedBody (p : Parameter) (content : Text) : Reading Parameter := do
  if 0 < p.place then return { p with value := .ok content }
  let (token, rest) : Option Word × Text ←
    if content.head? = some (.char '\'') then .ok (none, content)
    else (readValue content).map fun (w, rest) => (some w, rest)
  let (p, rest) ← readCharset (token.map Word.meaning) p rest
  return { p with value := unquoted rest }

/-- Reads a parameter. -/
def read (t : Text) : Reading (Parameter × Text) := do
  match ← readHead t with
  | (p, false, rest) => return (p, rest)
  | (p, true, t) =>
    match p.escaped, t with
    | true, .char '"' :: inside =>
      let (core, rest) := Core.readQuoted inside
      if ← holdsEscaped p core.meaning then
        return (← readQuotedBody p core.meaning, (Fill.read? rest).2)
      else readBody p t
    | _, t => readBody p t

/-- Passes over words, points and marks up to a semicolon, and hands on their written form. -/
def skip : (fuel : Nat) → Text → Reading (Text × Text)
  | 0, t => .ok ([], t)
  | _ + 1, [] => .ok ([], [])
  | fuel + 1, c :: rest => do
    if c = .char ';' then return ([], c :: rest)
    let (part, rest) : Text × Text ←
      if c.endsPhrase then .ok ([c], rest)
      else (Phrase.read (c :: rest)).map fun (parts, rest) => (parts.flatMap Part.written, rest)
    let (more, rest) ← skip fuel rest
    return (part ++ more, rest)

/-- Reads parameters separated by semicolons up to the end of the text. -/
def readFrom : (fuel : Nat) → Text → Reading (List Parameter)
  | 0, _ => .ok []
  | _ + 1, [] => .ok []
  | fuel + 1, t => do
    let (found, rest) ← Reading.orElse ((read t).map fun (p, rest) => ([p], rest))
      fun _ => .ok ([], (Fill.read? t).2)
    let (_, rest) ← skip rest.length rest
    let others ← readFrom fuel (rest.drop 1)
    return found ++ others

/-- Reads parameters. -/
def readAll (t : Text) : Reading (List Parameter) :=
  readFrom t.length t

/-! ## Values -/

/-- Replaces percent escapes by their octets. -/
def unescape : Octets → Octets
  | 0x25 :: a :: b :: rest =>
    match EncodedWord.unescape.hexValue? a, EncodedWord.unescape.hexValue? b with
    | some high, some low => UInt8.ofNat (16 * high + low) :: unescape rest
    | _, _ => 0x25 :: unescape (a :: b :: rest)
  | b :: rest => b :: unescape rest
  | [] => []

/-- Replaces percent escapes by the code points of their numbers. -/
def unescapeEach : Text → Text
  | .char '%' :: a :: b :: rest =>
    match a.hexValue?, b.hexValue? with
    | some high, some low => .ofNat (16 * high + low) :: unescapeEach rest
    | _, _ => .char '%' :: unescapeEach (a :: b :: rest)
  | c :: rest => c :: unescapeEach rest
  | [] => []

/-- The text of a value in percent escapes. Octets that were kept as lone surrogates make the character
set count for nothing. -/
def unescaped (charset t : Text) : Text :=
  match Utf8.encode? t with
  | some octets => ((Charset.ofName? charset).getD .ascii).decode (unescape octets)
  | none => unescapeEach t

/-- Puts the sections of a value together. A section out of place counts only if it is in percent
escapes. -/
def joinSections (charset : Text) (place : Nat) : List Parameter → Except Fault Text
  | [] => .ok []
  | p :: rest => do
    if p.place ≠ place && !p.escaped then joinSections charset place rest
    else
      let value ← p.value
      let value := if p.escaped then unescaped charset value else value
      return value ++ (← joinSections charset (place + 1) rest)

/-- The value of the parameters of one name. Of several values without sections the first counts. -/
def valueOf (sections : List Parameter) : Except Fault Text :=
  match sections.mergeSort fun a b => a.place ≤ b.place with
  | [] => .ok []
  | [p] => joinSections p.charset 0 [p]
  | p :: q :: rest =>
    -- two first sections are two values
    if !p.escaped && q.place = 0 then joinSections p.charset 0 [p]
    else joinSections p.charset 0 (p :: q :: rest)

/-- The values by name, in the order in which the names are first written. -/
def values (parameters : List Parameter) : Except Fault (List (Text × Text)) :=
  let names := (parameters.map Parameter.name).eraseDups
  names.mapM fun name => do
    return (name, ← valueOf (parameters.filter fun p => p.name = name))

/-- Parameters as text, behind a blank if there is any text. -/
def shownAll (parameters : List Parameter) : Except Fault Text := do
  let shown := Text.join "; " <| (← values parameters).map fun (name, value) =>
    if value.isEmpty then name else name ++ "=" ++ value.inQuotes
  return if shown.isEmpty then [] else .char ' ' :: shown

end Parameter

end MailFilter
