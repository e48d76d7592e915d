import MailFilter.Json.Basic
import MailFilter.Value.Display

/-!
# Objects as values

- `Json.toValue`: the value of a tree; of members with one name the last counts, at the place of the
  first.
- `Value.toJson`: the tree of a value. Keys are written as text; what trees do not have is written
  in its plain form.
-/

namespace MailFilter

namespace Json

mutual

/-- The value of a tree. -/
def toValue : Json → Value
  | .null => .null
  | .bool b => .bool b
  | .int n => .int n
  | .float x => .float x
  | .text t => .text t
  | .array items => .list (itemsToValues items)
  | .object members => .map (membersToEntries members [])

/-- The values of the items of an array. -/
def itemsToValues : List Json → List Value
  | [] => []
  | j :: rest => j.toValue :: itemsToValues rest

/-- The entries of an object, entered one after another. -/
def membersToEntries : List (Text × Json) → List (Value × Value) → List (Value × Value)
  | [], entries => entries
  | (name, j) :: rest, entries =>
    membersToEntries rest (Value.put (.text name) j.toValue entries)

end

end Json

namespace Value

mutual

/-- The tree of a value. -/
def toJson : Value → Json
  | .null => .null
  | .bool b => .bool b
  | .int n => .int n
  | .float x => .float x
  | .text t => .text t
  | .list items => .array (itemsToJson items)
  | .pair first second => .array [first.toJson, second.toJson]
  | .map entries => .object (entriesToJson entries)
  | v => .text v.plain

/-- The trees of the items of a list. -/
def itemsToJson : List Value → List Json
  | [] => []
  | v :: rest => v.toJson :: itemsToJson rest

/-- The members of a mapping. -/
def entriesToJson : List (Value × Value) → List (Text × Json)
  | [] => []
  | (k, v) :: rest => (k.plain, v.toJson) :: entriesToJson rest

end

end Value

end MailFilter
