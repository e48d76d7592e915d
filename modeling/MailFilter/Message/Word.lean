import MailFilter.Failure
import MailFilter.Message.EncodedWord

/-!
# Words of structured fields

Fields with a structure (addresses, identifiers, media types) are made of words. Between words stands
*fill*: blanks and comments in parentheses, which mean one blank. A word is an atom, an encoded word
or a quotation, with the fill on both sides of it.

Everything that is read has a *written* form, in which comments and quotations are spelled in one way,
and a *meaning*.

- `Trouble`, `Reading`: why reading stops, and what a reader answers.
- `Fill.read?`: fill at the beginning of a text.
- `Word`, `Word.read`: a word.
- `Phrase.read`: words and points up to a mark that ends a phrase.

A reader that answers `absent` has read nothing, and another reading may be tried. Readers that go
round are bounded by the length of the text, of which every round reads at least one code point.
-/

namespace MailFilter

/-- Why a reader stops. -/
inductive Trouble where
  /-- What it reads does not stand at the beginning of the text. -/
  | absent
  /-- What stands there is cut off in a place that nothing recovers from. -/
  | fault (f : Fault)

/-- The answer of a reader, most often what it has read and what follows. -/
abbrev Reading := Except Trouble

namespace Reading

variable {α : Type}

/-- Takes another reading where there is nothing to read in this way. -/
def orElse (r : Reading α) (other : Unit → Reading α) : Reading α :=
  match r with
  | .error .absent => other ()
  | r => r

/-- A reading that was cut off. -/
def cutOff (f : Fault) : Reading α :=
  .error (.fault f)

end Reading

namespace CodePoint

/-- A mark with a meaning of its own in structured fields. -/
def isSpecial : CodePoint → Bool
  | .char c => "()<>@,:;.\\\"[]".toList.contains c
  | .surrogate _ => false

/-- Begins fill. -/
def beginsFill (c : CodePoint) : Bool :=
  c.isSpace || c = .char '('

/-- Ends an atom. -/
def endsAtom (c : CodePoint) : Bool :=
  c.isSpecial || c.isSpace

/-- Ends a phrase. Points, quotations and comments may stand in one. -/
def endsPhrase (c : CodePoint) : Bool :=
  c.isSpecial && c ≠ .char '.' && c ≠ .char '"' && c ≠ .char '('

end CodePoint

/-- A text in double quotes, with a backslash before each backslash and quote in it. -/
def Text.inQuotes (t : Text) : Text :=
  [.char '"'] ++
    (t.flatMap fun c => if c = .char '\\' || c = .char '"' then [.char '\\', c] else [c]) ++
    [.char '"']

/-- Reads up to a blank or an end mark. A backslash makes the code point after it plain. -/
def Text.readPlain (ends : CodePoint → Bool) : (escaped : Bool) → Text → Text × Text
  | _, [] => ([], [])
  | escaped, c :: rest =>
    if c.isSpace then ([], c :: rest)
    else if escaped then
      let (t, after) := readPlain ends false rest
      (c :: t, after)
    else if c = .char '\\' then readPlain ends true rest
    else if ends c then ([], c :: rest)
    else
      let (t, after) := readPlain ends false rest
      (c :: t, after)

/-! ## Fill -/

namespace Fill

/-- The written form of a text inside a comment. -/
def escaped (t : Text) : Text :=
  t.flatMap fun c =>
    if c = .char '\\' || c = .char '(' || c = .char ')' then [.char '\\', c] else [c]

/-- Reads the rest of a comment of which `depth` parentheses are open; at the end of the text all of
them are closed. -/
def readComment : (fuel depth : Nat) → Text → Text × Text
  | 0, _, t => ([], t)
  -- a comment without an end is closed, so that its written form has one
  | _ + 1, depth, [] => (List.replicate depth (.char ')'), [])
  | fuel + 1, depth, c :: rest =>
    let t := c :: rest
    let add (part rest : Text) (depth : Nat) : Text × Text :=
      let (more, after) := readComment fuel depth rest
      (part ++ more, after)
    if c = .char ')' then if depth ≤ 1 then ([c], rest) else add [c] rest (depth - 1)
    else if c = .char '(' then add [c] rest (depth + 1)
    else if c.isSpace then
      -- a run of blanks is kept as it is, line ends included
      let (blanks, rest) := Span.readBlanks t
      add blanks rest depth
    else
      let (plain, rest) := Text.readPlain (fun c => c = .char '(' || c = .char ')') false t
      add (escaped plain) rest depth

/-- Reads blanks and comments. -/
def readFrom : (fuel : Nat) → Text → Text × Text
  | 0, t => ([], t)
  | _ + 1, [] => ([], [])
  | fuel + 1, c :: rest =>
    let add (part rest : Text) : Text × Text :=
      let (more, after) := readFrom fuel rest
      (part ++ more, after)
    if c = .char '(' then
      let (comment, rest) := readComment (rest.length + 1) 1 rest
      add (c :: comment) rest
    else if c.isSpace then
      let (blanks, rest) := Span.readBlanks (c :: rest)
      add blanks rest
    else ([], c :: rest)

/-- The written form of the fill at the beginning of a text, if there is any, and what follows. -/
def read? (t : Text) : Option Text × Text :=
  match t with
  | [] => (none, [])
  | c :: _ =>
    if c.beginsFill then
      let (fill, rest) := readFrom t.length t
      (some fill, rest)
    else (none, t)

/-- The meaning of fill that may be there. -/
def meaning : Option Text → Text
  | some _ => [.char ' ']
  | none => []

end Fill

/-! ## Words -/

/-- What stands between the fill on both sides of a word. -/
inductive Core where
  | atom (t : Text)
  | encoded (t : Text)
  | quotation (content : List Span)

namespace Core

/-- A quotation without an end and without content, or an encoded word without digits. -/
def isHollow : Core → Bool
  | .atom _ => false
  | .encoded t => t.isEmpty
  | .quotation content => content.isEmpty

/-- The written form. -/
def written : Core → Text
  | .atom t | .encoded t => t
  | .quotation content => (Span.textOf content).inQuotes

/-- Puts one blank for each run of blanks that begins with a space or tab. -/
def collapseFrom : (fuel : Nat) → Text → Text
  | 0, t => t
  | _ + 1, [] => []
  | fuel + 1, c :: rest =>
    -- blanks inside a decoded word count as one, as they do between words
    if c.isSpace then .char ' ' :: collapseFrom fuel (Span.readBlanks (c :: rest)).2
    else c :: collapseFrom fuel rest

/-- The meaning. -/
def meaning : Core → Text
  | .atom t => t
  | .encoded t => collapseFrom t.length t
  | .quotation content => Span.textOf content

/-- Reads spans up to the closing quote and adds them to those read so far, which are kept in
reverse. -/
def readQuotation : (fuel : Nat) → (done : List Span) → Text → List Span × Text
  | 0, done, t => (done, t)
  | _ + 1, done, [] => (done, [])
  | fuel + 1, done, c :: rest =>
    let t := c :: rest
    let plain : List Span × Text :=
      let (plain, rest) := Text.readPlain (· = .char '"') false t
      readQuotation fuel (Span.append done (.plain plain)) rest
    if c = .char '"' then (done, rest)
    else if c.isSpace then
      let (blanks, rest) := Span.readBlanks t
      readQuotation fuel (Span.append done (.blanks blanks)) rest
    -- an encoded word is decoded inside quotes too, where none may stand
    else match EncodedWord.read t with
    | .word decoded rest => readQuotation fuel (Span.append done (.encoded decoded)) rest
    | _ => plain

/-- Reads a quotation behind its opening quote. -/
def readQuoted (t : Text) : Core × Text :=
  -- an empty quotation has an empty text in it, which one that is cut off has not
  let start : List Span := if t.head? = some (.char '"') then [.plain []] else []
  let (content, rest) := readQuotation (t.length + 1) start t
  (.quotation content.reverse, rest)

/-- Reads the code points that end no atom. -/
def readAtom (t : Text) : Reading (Core × Text) :=
  match t.takeWhile (!·.endsAtom) with
  | [] => .error .absent
  | name => .ok (.atom name, t.drop name.length)

/-- Reads an encoded word, or else in another way. -/
def readEncodedOr (other : Text → Reading (Core × Text)) (t : Text) : Reading (Core × Text) :=
  match EncodedWord.read t with
  | .word decoded rest => .ok (.encoded decoded, rest)
  | _ => other t

/-- Reads atoms joined by points. A point at the end makes them unreadable. -/
def readDotted (t : Text) : Reading (Core × Text) :=
  let dotted := joined t.length t
  if dotted.isEmpty then .error .absent
  else if dotted.getLast? = some (.char '.') then .error .absent
  else .ok (.atom dotted, t.drop dotted.length)
where
  /-- Atoms, each with the point behind it. -/
  joined : Nat → Text → Text
    | 0, _ => []
    | fuel + 1, t =>
      match t.takeWhile (!·.endsAtom), t.dropWhile (!·.endsAtom) with
      | [], _ => []
      | name, .char '.' :: rest => name ++ .char '.' :: joined fuel rest
      | name, _ => name

end Core

/-- A word with the written forms of the fill before and after it. -/
structure Word where
  before : Option Text
  core : Core
  after : Option Text

namespace Word

/-- The written form. -/
def written (w : Word) : Text :=
  w.before.getD [] ++ w.core.written ++ w.after.getD []

/-- The meaning. -/
def meaning (w : Word) : Text :=
  Fill.meaning w.before ++ w.core.meaning ++ Fill.meaning w.after

/-- Adds the fill that follows a core. -/
def ofCore (before : Option Text) (r : Reading (Core × Text)) : Reading (Word × Text) := do
  let (core, rest) ← r
  let (after, rest) := Fill.read? rest
  return (⟨before, core, after⟩, rest)

/-- Reads an atom or an encoded word. -/
def readAtom (t : Text) : Reading (Word × Text) :=
  let (before, t) := Fill.read? t
  match t with
  | [] => .error .absent
  | c :: _ =>
    if c.endsAtom then .error .absent
    else ofCore before (Core.readEncodedOr Core.readAtom t)

/-- Reads atoms joined by points, or an encoded word. -/
def readDotted (t : Text) : Reading (Word × Text) :=
  let (before, t) := Fill.read? t
  ofCore before (Core.readEncodedOr Core.readDotted t)

/-- Reads a word. -/
def read (t : Text) : Reading (Word × Text) :=
  if t.isEmpty then Reading.cutOff .missingPosition
  else
    let (before, t) := Fill.read? t
    match t with
    | [] => .error .absent
    | .char '"' :: rest => ofCore before (.ok (Core.readQuoted rest))
    | c :: _ =>
      if c.isSpecial then .error .absent
      else ofCore before (Core.readEncodedOr Core.readAtom t)

end Word

/-! ## Phrases -/

/-- A part of a phrase or of the part of an address before its at sign. -/
inductive Part where
  | word (w : Word)
  | point
  /-- A backslash that stands where none may stand. -/
  | backslash
  | fill (written : Text)

namespace Part

/-- The written form. -/
def written : Part → Text
  | .word w => w.written
  | .point => [.char '.']
  | .backslash => [.char '\\']
  | .fill t => t

/-- The meaning. -/
def meaning : Part → Text
  | .word w => w.meaning
  | .point => [.char '.']
  | .backslash => [.char '\\']
  | .fill _ => [.char ' ']

end Part

namespace Phrase

/-- Reads a word, or else fill. -/
def readWordOrFill (t : Text) : Reading (Part × Text) :=
  Reading.orElse ((Word.read t).map fun (w, rest) => (.word w, rest)) fun _ =>
    match Fill.read? t with
    | (some fill, rest) => .ok (.fill fill, rest)
    | (none, _) => .error .absent

/-- Reads the parts of a phrase after the first word. -/
def readRest : (fuel : Nat) → Text → Reading (List Part × Text)
  | 0, t => .ok ([], t)
  | _ + 1, [] => .ok ([], [])
  | fuel + 1, c :: rest => do
    if c.endsPhrase then return ([], c :: rest)
    let (part, rest) ←
      if c = .char '.' then .ok (Part.point, rest) else readWordOrFill (c :: rest)
    let (parts, rest) ← readRest fuel rest
    return (part :: parts, rest)

/-- Reads a phrase, which may be empty. -/
def read (t : Text) : Reading (List Part × Text) := do
  let (first, t) ← Reading.orElse ((Word.read t).map fun (w, rest) => ([Part.word w], rest))
    fun _ => .ok ([], t)
  let (parts, rest) ← readRest (t.length + 1) t
  return (first ++ parts, rest)

end Phrase

end MailFilter
