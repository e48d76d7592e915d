import MailFilter.Text.Base64
import MailFilter.Text.Blank
import MailFilter.Text.Charset

/-!
# Encoded words

Header fields are written in ASCII. A word with other letters is written as
`=?charset?encoding?digits?=`, the encoding being `q` for octets as pairs of hexadecimal digits and
`b` for base64. Blanks between two encoded words are not part of the text.

- `EncodedWord.decode?`: the text of what stands between `=?` and `?=`.
- `EncodedWord.read`: an encoded word at the beginning of a text.
- `Span`, `Span.append`: what a text is made of, blanks between encoded words being dropped.
- `FreeText.spans`, `FreeText.read`: the text of a field without structure.
-/

namespace MailFilter

namespace EncodedWord

/-- Replaces underscores by blanks and hexadecimal escapes by their octets. -/
def unescape : Octets → Octets
  | 0x3D :: a :: b :: rest =>
    match hexValue? a, hexValue? b with
    | some high, some low => UInt8.ofNat (16 * high + low) :: unescape rest
    | _, _ => 0x3D :: unescape (a :: b :: rest)
  | 0x5F :: rest => 0x20 :: unescape rest
  | b :: rest => b :: unescape rest
  | [] => []
where
  /-- The value of a hexadecimal digit. -/
  hexValue? (b : UInt8) : Option Nat :=
    (CodePoint.ofNat b.toNat).hexValue?

/-- Decodes base64. Where padding is missing it is supplied, and what is not base64 at all stands for
itself. -/
def unpack (octets : Octets) : Octets :=
  ((Base64.decode? octets).orElse fun _ => Base64.decode? (octets ++ [0x3D, 0x3D])).getD octets

/-- The octets of the digits in an encoding. -/
def octets? (encoding digits : Text) : Option Octets := do
  let octets ← digits.mapM octet?
  if encoding.asciiFold = ("q" : Text) then some (unescape octets)
  else if encoding.asciiFold = ("b" : Text) then some (unpack octets)
  else none
where
  /-- The octet of an ASCII code point, or the octet that was kept as a lone surrogate. -/
  octet? (c : CodePoint) : Option UInt8 :=
    if c.isAscii then some (.ofNat c.toNat) else Utf8.keptOctet? c

/-- The text of octets in the character set of a name. A language may follow the name. -/
def decodeIn (charset : Text) (octets : Octets) : Text :=
  let name := charset.takeWhile (· ≠ .char '*')
  ((Charset.ofName? name).getD .ascii).decode octets

/-- The text of what stands between `=?` and `?=`. -/
def decode? (inside : Text) : Option Text :=
  match Text.splitOn (.char '?') inside with
  | [charset, encoding, digits] =>
    if charset.contains (.char '\x00') then none
    else (octets? encoding digits).map (decodeIn charset)
  | _ => none

/-- What stands at the beginning of a text. -/
inductive Attempt where
  /-- The text of an encoded word, and what follows it. -/
  | word (t rest : Text)
  /-- Something that begins and ends like an encoded word. -/
  | invalid
  /-- Nothing like an encoded word. -/
  | absent

/-- Reads an encoded word at the beginning of a text. An end mark that is followed by two
hexadecimal digits before the word has all its parts belongs to its digits. -/
def read (t : Text) : Attempt :=
  match Text.dropPrefix? "=?" t with
  | none => .absent
  | some t =>
    match Text.cut? "?=" t with
    | none => .absent
    | some (inside, rest) =>
      let (inside, rest) :=
        if beginsWithOctet rest && inside.count (.char '?') < 2 then
          match Text.cut? "?=" rest with
          | some (more, rest) => (inside ++ "?=" ++ more, rest)
          | none => (inside ++ "?=" ++ rest, [])
        else (inside, rest)
      match decode? inside with
      | some t => .word t rest
      | none => .invalid
where
  /-- Whether a text begins with two hexadecimal digits. -/
  beginsWithOctet : Text → Bool
    | a :: b :: _ => a.hexValue?.isSome && b.hexValue?.isSome
    | _ => false

/-- Whether something that looks like an encoded word occurs in a text. -/
def occursIn : Text → Bool
  | [] => false
  | c :: rest =>
    looksLike (c :: rest) || occursIn rest
where
  /-- Whether a text begins with a character set, an encoding and digits up to an end mark. -/
  looksLike (t : Text) : Bool :=
    match (Text.dropPrefix? "=?" t).bind (Text.cut? "?") with
    | some (_, encoding :: .char '?' :: digits) =>
      [CodePoint.char 'q', .char 'Q', .char 'b', .char 'B'].contains encoding &&
        Text.occurs "?=" digits
    | _ => false

end EncodedWord

/-- A blank between words. -/
def CodePoint.isSpace (c : CodePoint) : Bool :=
  c = .char ' ' || c = .char '\t'

/-- A part of a text: blanks, plain text, or the text of an encoded word. -/
inductive Span where
  | blanks (t : Text)
  | plain (t : Text)
  | encoded (t : Text)

namespace Span

/-- The text of a span. -/
def text : Span → Text
  | .blanks t | .plain t | .encoded t => t

/-- Adds a span to those read so far, which are kept in reverse. Blanks between two encoded words are
emptied. -/
def append (done : List Span) (s : Span) : List Span :=
  match s, done with
  | .encoded t, .blanks _ :: .encoded u :: rest =>
    .encoded t :: .blanks [] :: .encoded u :: rest
  | s, done => s :: done

/-- The text of spans in order. -/
def textOf (spans : List Span) : Text :=
  spans.flatMap text

/-- Splits off the blanks at the beginning of a text. -/
def readBlanks (t : Text) : Text × Text :=
  (t.takeWhile CodePoint.isBlank, t.dropWhile CodePoint.isBlank)

end Span

namespace FreeText

/-- Reads spans and adds them to those read so far, which are kept in reverse. -/
def spansFrom : (fuel : Nat) → (done : List Span) → Text → List Span
  | 0, done, _ => done
  | _ + 1, done, [] => done
  | fuel + 1, done, c :: rest =>
    let t := c :: rest
    if c.isSpace then
      let (blanks, rest) := Span.readBlanks t
      spansFrom fuel (Span.append done (.blanks blanks)) rest
    else
      let word := t.takeWhile (!·.isSpace)
      let plain (word rest : Text) := spansFrom fuel (Span.append done (.plain word)) rest
      match EncodedWord.read t with
      | .word decoded rest => spansFrom fuel (Span.append done (.encoded decoded)) rest
      | .invalid => plain word (t.drop word.length)
      | .absent =>
        if EncodedWord.occursIn word then
          match Text.cut? "=?" t with
          | some (before, after) => plain before ("=?" ++ after)
          | none => plain t []
        else plain word (t.drop word.length)

/-- The spans of a text. -/
def spans (t : Text) : List Span :=
  (spansFrom t.length [] t).reverse

/-- The text of a field without structure, its encoded words being decoded. -/
def read (t : Text) : Text :=
  Span.textOf (spans t)

end FreeText

end MailFilter
