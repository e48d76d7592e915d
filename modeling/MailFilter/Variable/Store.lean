import MailFilter.Assoc
import MailFilter.Text.Case
import MailFilter.Text.Quoted

/-!
# The store of variables

Variables are bound while one script runs over one message. Names are compared in small letters.
The groups of the last successful glob are kept apart, under the numbers 1 to 9.

- `Store`: the bindings, in the order in which names were first bound, and the captures.
- `Store.bind`, `Store.capture`, `Store.lookup?`: the operations.
- `Store.lookup?_bind`: what a binding changes for the names that are no captures.
-/

namespace MailFilter

/-- The greatest number of captures. -/
def maxCaptures : Nat := 9

/-- Bindings under names in small letters, and the groups of the last glob. -/
structure Store where
  bindings : Assoc Text Text
  captures : List Text
  /-- Each name is bound once. -/
  distinct : bindings.keys.Nodup
  /-- Captures past the last one that has a number are dropped. -/
  few : captures.length ≤ maxCaptures
  deriving DecidableEq

namespace Store

/-- Nothing is bound. -/
def empty : Store := ⟨[], [], List.nodup_nil, Nat.zero_le _⟩

instance : Inhabited Store := ⟨empty⟩

/-- Binds a value to a name, whatever the name was bound to. -/
def bind (s : Store) (name value : Text) : Store :=
  { s with
    bindings := s.bindings.put name.lower value
    distinct := Assoc.nodup_keys_put _ _ _ s.distinct }

/-- Replaces the captures by the first nine of the groups. -/
def capture (s : Store) (groups : List Text) : Store :=
  { s with captures := groups.take maxCaptures, few := List.length_take_le .. }

/-- Whether a name consists of digits alone. -/
def isNumber (name : Text) : Bool :=
  !name.isEmpty && name.all CodePoint.isDigit

/-- The capture that a name of one digit stands for. -/
def captureOf? (s : Store) (name : Text) : Option Text :=
  match name.digitsValue with
  | 0 => none
  | n + 1 => s.captures[n]?

/-- The value of a name. A number of several digits has none; a digit stands for a capture, and for
a binding only if there is no such capture. -/
def lookup? (s : Store) (name : Text) : Option Text :=
  let key := name.lower
  if isNumber key then
    if 1 < key.length then none
    else s.captureOf? key <|> s.bindings.get? key
  else s.bindings.get? key

/-- Forgets everything. -/
def reset (_ : Store) : Store := empty

/-- Whether a name has a value. -/
def contains (s : Store) (name : Text) : Bool :=
  (s.lookup? name).isSome

/-- The number of bindings. -/
def size (s : Store) : Nat :=
  s.bindings.length

/-- The store as text. -/
def shown (s : Store) : Text :=
  let entries := s.bindings.map fun (name, value) => name.quoted ++ ": " ++ value.quoted
  "VariableStore(\x7b" ++ Text.join ", " entries ++ "\x7d, captures=[" ++
    Text.join ", " (s.captures.map Text.quoted) ++ "])"

/-! ## Laws -/

@[simp] theorem captures_bind (s : Store) (name value : Text) :
    (s.bind name value).captures = s.captures := rfl

@[simp] theorem bindings_capture (s : Store) (groups : List Text) :
    (s.capture groups).bindings = s.bindings := rfl

@[simp] theorem captures_capture (s : Store) (groups : List Text) :
    (s.capture groups).captures = groups.take maxCaptures := rfl

/-- A name that is no number has the value bound to it last. -/
theorem lookup?_bind (s : Store) (name value other : Text) (h : isNumber other.lower = false) :
    (s.bind name value).lookup? other =
      if name.lower = other.lower then some value else s.lookup? other := by
  simp [lookup?, h, bind, Assoc.get?_put]

end Store

end MailFilter
