import MailFilter.Text.Basic
import MailFilter.Text.PrintableTable

/-!
# Quoted texts

The quoted form of a text shows every code point: a text stands between single quotes, or between
double quotes if it holds single quotes and no double ones. The quote and the backslash follow a
backslash, tab and line ends have letters of their own, and other unprintable code points are
written by their number in the shortest of `\xhh`, `\uhhhh` and `\Uhhhhhhhh`.

- `Text.quoted`: the quoted form.
-/

namespace MailFilter

namespace CodePoint

/-- Whether a code point can be shown as itself. -/
def isPrintable (c : CodePoint) : Bool :=
  if c.isAscii then 0x20 ≤ c.toNat && c.toNat < 0x7F
  else !c.isIn PrintableTable.unprintableRanges

/-- A code point inside the given quotes. -/
def quoted (quote : CodePoint) (c : CodePoint) : Text :=
  if c = quote || c = .char '\\' then [.char '\\', c]
  else if c = .char '\t' then "\\t"
  else if c = .char '\n' then "\\n"
  else if c = .char '\r' then "\\r"
  else if c.isPrintable then [c]
  else if c.toNat < 0x100 then "\\x" ++ Text.hex 2 c.toNat
  else if c.toNat < 0x10000 then "\\u" ++ Text.hex 4 c.toNat
  else "\\U" ++ Text.hex 8 c.toNat

end CodePoint

namespace Text

/-- The quote in which a text is shown. -/
def quoteMark (t : Text) : CodePoint :=
  if t.contains (.char '\'') && !t.contains (.char '"') then .char '"' else .char '\''

/-- The quoted form of a text. -/
def quoted (t : Text) : Text :=
  let quote := quoteMark t
  [quote] ++ t.flatMap (CodePoint.quoted quote) ++ [quote]

end Text

end MailFilter
