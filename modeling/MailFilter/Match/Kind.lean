import MailFilter.Text.Case

/-!
# Match types and comparators

How a value of a message is compared with a key of a script.

- `MatchType`: the whole value, a part of it, or a glob.
- `Comparator`: with ASCII letters folded, code point by code point, or as numbers.
- `MatchType.ofText?`, `Comparator.ofText?`: reading the keywords, in any letter case.
- `Comparator.supports`: numbers can only be compared whole.
-/

namespace MailFilter

/-- How much of a value a key has to match. -/
inductive MatchType where
  | whole
  | part
  | glob
  deriving DecidableEq, Inhabited, Repr

/-- How code points, or texts as numbers, are compared. -/
inductive Comparator where
  | asciiCasemap
  | octet
  | asciiNumeric
  deriving DecidableEq, Inhabited, Repr

namespace Text

/-- The keyword of a tag: the text without one leading colon, in small letters. -/
def tagKeyword (t : Text) : Text :=
  match t with
  | .char ':' :: rest => lower rest
  | _ => lower t

end Text

namespace MatchType

/-- Every match type. -/
def all : List MatchType := [.whole, .part, .glob]

/-- The keyword of a match type. -/
def keyword : MatchType → Text
  | .whole => "is"
  | .part => "contains"
  | .glob => "matches"

/-- Reads a keyword, with or without a leading colon. -/
def ofText? (t : Text) : Option MatchType :=
  all.find? fun m => m.keyword = t.tagKeyword

end MatchType

namespace Comparator

/-- Every comparator. -/
def all : List Comparator := [.asciiCasemap, .octet, .asciiNumeric]

/-- The name of a comparator. -/
def name : Comparator → Text
  | .asciiCasemap => "i;ascii-casemap"
  | .octet => "i;octet"
  | .asciiNumeric => "i;ascii-numeric"

/-- Reads a name. -/
def ofText? (t : Text) : Option Comparator :=
  all.find? fun c => c.name = t.lower

/-- Numbers are compared whole only. -/
def supports (c : Comparator) (m : MatchType) : Bool :=
  c ≠ .asciiNumeric || m = .whole

/-- Whether two code points are the same to a comparator of texts. -/
def same : Comparator → CodePoint → CodePoint → Bool
  | .asciiCasemap, a, b => a.asciiFold = b.asciiFold
  | _, a, b => a = b

end Comparator

end MailFilter
