import MailFilter.Text.Blank
import MailFilter.Text.DigitTable

/-!
# Integers in texts

- `Text.groupedDigits?`: digits, single underscores being allowed between two of them.
- `Text.integer?`: an integer with an optional sign, blanks at both ends being passed over. Its
  digits may be those of any script.
-/

namespace MailFilter

namespace Text

/-- The digits of a text without the single underscores between two of them. -/
def groupedDigits? (t : Text) : Option Text :=
  let groups := splitOn (.char '_') t
  if groups.all fun g => !g.isEmpty && g.all CodePoint.isDigit then some groups.flatten else none

/-- The integer that a text denotes, if it has at most `limit` digits. -/
def integer? (limit : Nat) (t : Text) : Option Int :=
  let (negative, digits) : Bool × Text :=
    match strip t.asciiDigits with
    | .char '-' :: rest => (true, rest)
    | .char '+' :: rest => (false, rest)
    | t => (false, t)
  match groupedDigits? digits with
  | some digits =>
    if limit < digits.length then none
    else
      let n : Int := digitsValue digits
      some (if negative then -n else n)
  | none => none

end Text

end MailFilter
