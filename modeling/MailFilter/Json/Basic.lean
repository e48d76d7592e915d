import MailFilter.Decimal.Shortest

/-!
# Objects in text form

Trees of numbers, texts, arrays and objects, and their text form. Numbers keep their kind: one that
is written with a fraction or an exponent is a floating-point number.

- `Json`: a tree. The members of an object keep their order.
- `Json.write`: its text form. Unprintable control characters are escaped; code points outside ASCII
  are escaped or not, as the caller chooses.
-/

namespace MailFilter

/-- A tree of numbers, texts, arrays and objects. -/
inductive Json where
  | null
  | bool (b : Bool)
  | int (n : Int)
  | float (x : Float)
  | text (t : Text)
  | array (items : List Json)
  | object (members : List (Text × Json))
  deriving Inhabited

namespace Json

instance : Coe Text Json := ⟨.text⟩

/-- Which code points are escaped beside those that must be. -/
inductive Charset where
  | ascii
  | unicode
  deriving DecidableEq

/-- The escape of a number of sixteen bits. -/
def unitEscape (n : Nat) : Text :=
  "\\u" ++ Text.hex 4 n

/-- The escape of a code point, as one unit or as a surrogate pair. -/
def pointEscape (n : Nat) : Text :=
  if n < 0x10000 then unitEscape n
  else unitEscape (0xD800 + (n - 0x10000) / 0x400) ++ unitEscape (0xDC00 + (n - 0x10000) % 0x400)

/-- A code point inside quotes. -/
def escape (charset : Charset) (c : CodePoint) : Text :=
  match c with
  | .char '"' => "\\\""
  | .char '\\' => "\\\\"
  | .char '\n' => "\\n"
  | .char '\r' => "\\r"
  | .char '\t' => "\\t"
  | .char '\x08' => "\\b"
  | .char '\x0c' => "\\f"
  | c =>
    if c.toNat < 0x20 || (charset = .ascii && 0x7F ≤ c.toNat) then
      pointEscape c.toNat
    else [c]

/-- A text in quotes. -/
def writeText (charset : Charset) (t : Text) : Text :=
  "\"" ++ t.flatMap (escape charset) ++ "\""

/-- Numbers with a fraction, written positionally from `0.0001` to below `10 ^ 16`. -/
def numbers : DecimalLayout := ⟨-3, 16, "Infinity", "NaN"⟩

mutual

/-- The text form of a tree. -/
def write (charset : Charset) : Json → Text
  | .null => "null"
  | .bool b => if b then "true" else "false"
  | .int n => Text.ofInt n
  | .float x => numbers.render x
  | .text t => writeText charset t
  | .array items => "[" ++ Text.join ", " (writeItems charset items) ++ "]"
  | .object members => "\x7b" ++ Text.join ", " (writeMembers charset members) ++ "\x7d"

/-- The text forms of the items of an array. -/
def writeItems (charset : Charset) : List Json → List Text
  | [] => []
  | j :: rest => write charset j :: writeItems charset rest

/-- The text forms of the members of an object. -/
def writeMembers (charset : Charset) : List (Text × Json) → List Text
  | [] => []
  | (name, j) :: rest =>
    (writeText charset name ++ ": " ++ write charset j) :: writeMembers charset rest

end

end Json

end MailFilter
