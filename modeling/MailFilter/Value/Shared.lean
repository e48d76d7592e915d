import MailFilter.Value.Basic

/-!
# Shared values

In a document one value may be mentioned in several places. A *datum* is a value in which everything
that can be shared carries a number; two places that share a value carry the same number. Where
sharing makes no difference a datum stands for its value.

- `Datum`: a value with numbers.
- `Datum.value`: the value without them.
- `Datum.ofValue`: a value of which nothing is shared.
-/

namespace MailFilter

/-- A value in which everything that can be shared carries a number, unless it stands alone. -/
inductive Datum where
  | plain (v : Value)
  | day (id : Option Nat) (d : Day)
  | moment (id : Option Nat) (m : Moment)
  | list (id : Option Nat) (items : List Datum)
  | pair (first second : Datum)
  | map (id : Option Nat) (entries : List (Datum × Datum))
  | set (id : Option Nat) (members : List Datum)
  /-- The place where a collection contains itself. -/
  | cycle (id : Nat) (isMap : Bool)
  deriving Inhabited

namespace Datum

mutual

/-- The value of a datum. -/
def value : Datum → Value
  | .plain v => v
  | .day _ d => .day d
  | .moment _ m => .moment m
  | .list _ items => .list (valuesOf items)
  | .pair first second => .pair first.value second.value
  | .map _ entries => .map (valuesOfEntries entries)
  | .set _ members => .set (valuesOf members)
  | .cycle _ isMap => .cycle isMap

/-- The values of the items of a collection. -/
def valuesOf : List Datum → List Value
  | [] => []
  | d :: rest => d.value :: valuesOf rest

/-- The values of the entries of a mapping. -/
def valuesOfEntries : List (Datum × Datum) → List (Value × Value)
  | [] => []
  | (k, v) :: rest => (k.value, v.value) :: valuesOfEntries rest

end

mutual

/-- A value of which nothing is shared. -/
def ofValue : Value → Datum
  | .day d => .day none d
  | .moment m => .moment none m
  | .list items => .list none (ofValues items)
  | .pair first second => .pair (ofValue first) (ofValue second)
  | .map entries => .map none (ofEntries entries)
  | .set members => .set none (ofValues members)
  | v => .plain v

/-- Values of which nothing is shared. -/
def ofValues : List Value → List Datum
  | [] => []
  | v :: rest => ofValue v :: ofValues rest

/-- Entries of which nothing is shared. -/
def ofEntries : List (Value × Value) → List (Datum × Datum)
  | [] => []
  | (k, v) :: rest => (ofValue k, ofValue v) :: ofEntries rest

end

mutual

/-- A value is the value of its datum. -/
theorem value_ofValue (v : Value) : (ofValue v).value = v := by
  cases v with
  | list items => simp [ofValue, value, valuesOf_ofValues]
  | pair a b => simp [ofValue, value, value_ofValue]
  | map entries => simp [ofValue, value, valuesOfEntries_ofEntries]
  | set members => simp [ofValue, value, valuesOf_ofValues]
  | _ => simp [ofValue, value]

theorem valuesOf_ofValues (vs : List Value) : valuesOf (ofValues vs) = vs := by
  cases vs with
  | nil => simp [ofValues, valuesOf]
  | cons v rest => simp [ofValues, valuesOf, value_ofValue, valuesOf_ofValues]

theorem valuesOfEntries_ofEntries (es : List (Value × Value)) :
    valuesOfEntries (ofEntries es) = es := by
  cases es with
  | nil => simp [ofEntries, valuesOfEntries]
  | cons e rest =>
    obtain ⟨k, v⟩ := e
    simp [ofEntries, valuesOfEntries, value_ofValue, valuesOfEntries_ofEntries]

end

/-- Enters a value under a key. A key that is present keeps its place and its spelling. -/
def put (key value : Datum) : List (Datum × Datum) → List (Datum × Datum)
  | [] => [(key, value)]
  | (k, v) :: rest =>
    if Value.sameKey k.value key.value then (k, value) :: rest else (k, v) :: put key value rest

/-- The datum of a mapping under a text key. -/
def field? (d : Datum) (name : Text) : Option Datum :=
  match d with
  | .map _ entries => (entries.find? fun (k, _) => k.value.isText name).map Prod.snd
  | _ => none

end Datum

end MailFilter
