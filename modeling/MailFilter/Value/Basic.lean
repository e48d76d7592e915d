import MailFilter.Calendar
import MailFilter.Decimal.Binary
import MailFilter.Text.Utf8

/-!
# Values

What a document holds, whichever format it is written in: scripts and settings are read from values.
A mapping keeps its entries in the order in which their keys were first written.

- `Value`: a value.
- `Value.sameKey`: whether two values are one key; numbers are compared across their kinds.
- `Value.put`, `Value.field?`: entries of a mapping.
- `Value.isTruthy`: neither null, false, zero nor empty.
-/

namespace MailFilter

/-- A value of a document. -/
inductive Value where
  | null
  | bool (b : Bool)
  | int (n : Int)
  | float (x : Float)
  | text (t : Text)
  | octets (o : Octets)
  | day (d : Day)
  | moment (m : Moment)
  | list (items : List Value)
  | pair (first second : Value)
  | map (entries : List (Value × Value))
  | set (members : List Value)
  /-- The place where a list or a mapping contains itself. Which one it is that stands around it is
  not said. -/
  | cycle (isMap : Bool)
  deriving Inhabited

namespace Value

instance : Coe Text Value := ⟨.text⟩

/-- The value of a number, if it is whole. Truth values count as one and zero. -/
def whole? : Value → Option Int
  | .bool b => some (if b then 1 else 0)
  | .int n => some n
  | .float x => (Binary.ofFloat x).toInt?
  | _ => none

/-- Whether two values are the same key of a mapping. -/
def sameKey (a b : Value) : Bool :=
  match a, b with
  | .null, .null => true
  | .text s, .text t => s = t
  | .octets s, .octets t => s = t
  | .day s, .day t => s = t
  | .moment s, .moment t =>
    match s.offset, t.offset with
    | none, none => s = t
    | some x, some y => s.seconds - x = t.seconds - y && s.micro = t.micro
    | _, _ => false
  | .float x, .float y => x == y
  | a, b =>
    match a.whole?, b.whole? with
    | some m, some n => m = n
    | _, _ => false

/-- Enters a value under a key. A key that is present keeps its place and its spelling. -/
def put (key value : Value) : List (Value × Value) → List (Value × Value)
  | [] => [(key, value)]
  | (k, v) :: rest =>
    if sameKey k key then (k, value) :: rest else (k, v) :: put key value rest

/-- Whether a value is a given text. -/
def isText (name : Text) : Value → Bool
  | .text t => t = name
  | _ => false

theorem isText_eq_true_iff {v : Value} {name : Text} : v.isText name = true ↔ v = .text name := by
  cases v <;> simp [isText]

/-- The value under a text key. -/
def lookupText? (name : Text) : List (Value × Value) → Option Value
  | [] => none
  | (k, v) :: rest => if k.isText name then some v else lookupText? name rest

/-- The value of a mapping under a text key. -/
def field? (v : Value) (name : Text) : Option Value :=
  match v with
  | .map entries => lookupText? name entries
  | _ => none

/-- Neither null, false, zero nor empty. -/
def isTruthy : Value → Bool
  | .null => false
  | .bool b => b
  | .int n => n != 0
  | .float x => x != 0
  | .text t => !t.isEmpty
  | .octets o => !o.isEmpty
  | .list items => !items.isEmpty
  | .map entries => !entries.isEmpty
  | .set members => !members.isEmpty
  | .day _ | .moment _ | .pair _ _ | .cycle _ => true

/-- The name of the kind of a value. -/
def kindName : Value → Text
  | .null => "NoneType"
  | .bool _ => "bool"
  | .int _ => "int"
  | .float _ => "float"
  | .text _ => "str"
  | .octets _ => "bytes"
  | .day _ => "date"
  | .moment _ => "datetime"
  | .list _ => "list"
  | .pair _ _ => "tuple"
  | .map _ => "dict"
  | .set _ => "set"
  | .cycle isMap => if isMap then "dict" else "list"

theorem sameKey_text (k : Value) (name : Text) : sameKey k (.text name) = k.isText name := by
  cases k <;> simp [sameKey, isText, whole?]

/-- What was entered under a text key is found there. -/
theorem lookupText?_put_self (name : Text) (value : Value) (entries : List (Value × Value)) :
    lookupText? name (put (.text name) value entries) = some value := by
  induction entries with
  | nil => simp [put, lookupText?, isText]
  | cons entry rest ih =>
    obtain ⟨k, v⟩ := entry
    cases h : k.isText name <;> simp [put, sameKey_text, h, lookupText?, ih]

end Value

end MailFilter
