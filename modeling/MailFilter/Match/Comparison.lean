import MailFilter.Failure
import MailFilter.Match.Glob

/-!
# Comparing a value with a key

- `Comparison.number?`: the number at the beginning of a text.
- `Comparison.groups`: compares a value with a key. The answer is `none` if they do not match, and
  otherwise the groups of a glob, or no groups for the other match types.
-/

namespace MailFilter

namespace Comparison

/-- The number that the digits at the beginning of a text denote; a text without one counts as
infinite. More digits than `digitLimit` are refused. -/
def number? (t : Text) : Except Fault (Option Nat) :=
  let digits := t.takeWhile CodePoint.isDigit
  if digits.isEmpty then .ok none
  else if digitLimit < digits.length then .error .badValue
  else .ok (some (Text.digitsValue digits))

/-- The groups of a match, if the condition holds. -/
def noGroupsIf (condition : Bool) : Option (List Text) :=
  if condition then some [] else none

/-- Compares texts code point by code point. -/
def textGroups (matchType : MatchType) (same : CodePoint → CodePoint → Bool) (value key : Text) :
    Option (List Text) :=
  match matchType with
  | .whole => noGroupsIf (key.length == value.length && Text.beginsBy same key value)
  | .part => noGroupsIf (Text.occursBy same key value)
  | .glob => Glob.groups? same (Glob.ofText key) value

/-- Compares a value with a key. -/
def groups (matchType : MatchType) (comparator : Comparator) (value key : Text) :
    Except Failure (Option (List Text)) :=
  if comparator.supports matchType then
    match comparator with
    | .asciiNumeric =>
      match number? value, number? key with
      | .ok a, .ok b => .ok (noGroupsIf (a == b))
      | .error fault, _ | _, .error fault => .error (.fault fault)
    | .asciiCasemap | .octet => .ok (textGroups matchType comparator.same value key)
  else .error (.comparison (.unsupported comparator matchType))

end Comparison

end MailFilter
