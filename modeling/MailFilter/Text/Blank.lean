import MailFilter.Text.Basic

/-!
# Blanks and lines

- `CodePoint.isBlank`: the blanks of Unicode, with the ASCII controls that separate.
- `Text.words`: the parts between runs of blanks.
- `CodePoint.isLineEnd`, `Text.lines`: the line ends of Unicode, and the lines between them.
-/

namespace MailFilter

namespace CodePoint

/-- The ranges of blanks. -/
def blankRanges : List (Nat × Nat) :=
  [(0x09, 0x0D), (0x1C, 0x20), (0x85, 0x85), (0xA0, 0xA0), (0x1680, 0x1680), (0x2000, 0x200A),
    (0x2028, 0x2029), (0x202F, 0x202F), (0x205F, 0x205F), (0x3000, 0x3000)]

/-- A blank of any kind. -/
def isBlank (c : CodePoint) : Bool :=
  c.isIn blankRanges

/-- A code point that ends a line. -/
def isLineEnd (c : CodePoint) : Bool :=
  c.isIn [(0x0A, 0x0D), (0x1C, 0x1E), (0x85, 0x85), (0x2028, 0x2029)]

end CodePoint

namespace Text

/-- The parts between runs of blanks; `word` is what has been read of the current part. -/
def wordsFrom (word : Text) : Text → List Text
  | [] => if word.isEmpty then [] else [word]
  | c :: rest =>
    if c.isBlank then if word.isEmpty then wordsFrom [] rest else word :: wordsFrom [] rest
    else wordsFrom (word ++ [c]) rest

/-- The parts between runs of blanks. -/
def words (t : Text) : List Text :=
  wordsFrom [] t

/-- The lines of a text without their ends; a carriage return before a line feed is one end with
it. `line` is what has been read of the current line. -/
def linesFrom (line : Text) : Text → List Text
  | [] => if line.isEmpty then [] else [line]
  | .char '\r' :: .char '\n' :: rest => line :: linesFrom [] rest
  | c :: rest => if c.isLineEnd then line :: linesFrom [] rest else linesFrom (line ++ [c]) rest

/-- The lines of a text without their ends. -/
def lines (t : Text) : List Text :=
  linesFrom [] t

/-- Drops blanks at both ends. -/
def strip (t : Text) : Text :=
  trim CodePoint.isBlank t

end Text

end MailFilter
