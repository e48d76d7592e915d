import MailFilter.Yaml.Tag

/-!
# Styles of scalars

A scalar is written plainly if its form then tells its tag, and between quotes otherwise: single
quotes, in which only the quote is special, or double quotes, in which everything has an escape.
Octets are written as a block of lines.

- `Style`: how a scalar is written.
- `Style.of`: the style of a scalar.
- `Style.showsTag`: whether the tag has to stand in front of the scalar.
- `Scalar.escape?`: the escape of a code point in double quotes.
-/

namespace MailFilter

namespace Yaml

/-- How a scalar is written. -/
inductive Style where
  | plain
  | single
  | double
  | literal
  deriving DecidableEq, Repr

namespace Scalar

/-- A code point that can be written as it is: printable, and in ASCII. -/
def isShown (c : CodePoint) : Bool :=
  0x20 ≤ c.toNat && c.toNat ≤ 0x7E

/-- The code points that end a line. -/
def isBreak (c : CodePoint) : Bool :=
  c = .char '\n' || c = .char '\x85' || c = .char '\u2028' || c = .char '\u2029'

/-- Whether a text goes over several lines. -/
def isMultiline (t : Text) : Bool :=
  t.any isBreak

/-- Whether `p` holds of some code point and `q` of the one behind it. -/
def anyPair (p q : CodePoint → Bool) : Text → Bool
  | a :: b :: rest => (p a && q b) || anyPair p q (b :: rest)
  | _ => false

/-- Whether a text is empty or begins with a blank. -/
def isEndOrBlank (t : Text) : Bool :=
  t.head?.all (· = .char ' ')

/-- Whether the first code point of a text has a meaning of its own there. -/
def beginsSpecially : Text → Bool
  | [] => false
  | c :: rest =>
    Tag.isOneOf "#,[]\x7b\x7d&*!|>'\"%@\x60" c || (Tag.isOneOf "?-" c && isEndOrBlank rest)

/-- Whether a text holds a colon at its end or in front of a blank, or a hash behind a blank. -/
def holdsMark : Text → Bool
  | [] => false
  | c :: rest =>
    (c = .char ':' && isEndOrBlank rest) ||
      (c = .char ' ' && rest.head? = some (.char '#')) || holdsMark rest

/-- Whether a text can be written plainly on one line. -/
def allowsPlain (t : Text) : Bool :=
  t.all isShown && t.head? ≠ some (.char ' ') && t.getLast? ≠ some (.char ' ') &&
    !t.startsWith "---" && !t.startsWith "..." && !beginsSpecially t && !holdsMark t

/-- Whether a text can be written in single quotes: there is no blank beside a line end. -/
def allowsSingle (t : Text) : Bool :=
  let isBlank (c : CodePoint) : Bool := c = .char ' '
  let isEnd (c : CodePoint) : Bool := c = .char '\n'
  t.all (fun c => isShown c || isEnd c) && !anyPair isEnd isBlank t && !anyPair isBlank isEnd t

/-- The escape of a code point in double quotes. -/
def escape? (c : CodePoint) : Option Text :=
  let digits (width : Nat) : Text := (Text.hex width c.toNat).map capital
  match named.find? fun (known, _) => c = .char known with
  | some (_, name) => some [.char '\\', .char name]
  | none =>
    if isShown c then none
    else if c.toNat ≤ 0xFF then some ("\\x" ++ digits 2)
    else if c.toNat ≤ 0xFFFF then some ("\\u" ++ digits 4)
    else some ("\\U" ++ digits 8)
where
  /-- The capital of an ASCII letter. -/
  capital : CodePoint → CodePoint
    | .char c => .char c.toUpper
    | .surrogate i => .surrogate i
  /-- The code points whose escape is a letter or mark. -/
  named : List (Char × Char) :=
    [('\x00', '0'), ('\x07', 'a'), ('\x08', 'b'), ('\t', 't'), ('\n', 'n'), ('\x0B', 'v'),
      ('\x0C', 'f'), ('\r', 'r'), ('\x1B', 'e'), ('"', '"'), ('\\', '\\'), ('\x85', 'N'),
      ('\xA0', '_'), ('\u2028', 'L'), ('\u2029', 'P')]

end Scalar

namespace Style

/-- The style of a scalar. -/
def of (tag : Tag) (t : Text) : Style :=
  if tag = .octets then if t.isEmpty then .double else .literal
  else if Tag.ofPlain t = tag && Scalar.allowsPlain t then .plain
  else if Scalar.allowsSingle t then .single
  else .double

/-- Whether the tag has to stand in front of the scalar: the form does not tell it. -/
def showsTag (style : Style) (tag : Tag) : Bool :=
  style ≠ .plain && tag ≠ .text

end Style

end Yaml

end MailFilter
