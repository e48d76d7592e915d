import MailFilter.Text.Base64
import MailFilter.Value.Display
import MailFilter.Value.Shared
import MailFilter.Yaml.Node

/-!
# The nodes of values

A value is written as the node that means it. What is mentioned several times is one node, which is
mentioned from the second time on.

- `Scalar.ofValue`: the tag and the text of a value that is no collection.
- `Node.ofDatum`: the node of a datum.
- `Node.mentions`: the nodes that are mentioned, in the order of their mentions.
-/

namespace MailFilter

namespace Yaml

/-! ## Scalars -/

namespace Scalar

/-- Numbers with a fraction are written as they are shown, but for the names of the infinite ones. -/
def numbers : DecimalLayout := { Value.numbers with infinity := ".inf", notANumber := ".nan" }

/-- A number with a fraction always has a point. -/
def ofFloat (x : Float) : Text :=
  let t := numbers.render x
  match Text.cut? "e" t with
  | some (digits, exponent) =>
    if digits.contains (.char '.') then t else digits ++ ".0e" ++ exponent
  | none => t

/-- The most digits of base64 on a line. -/
def octetsPerLine : Nat := 57

/-- Octets in lines of base64. -/
def linesOfOctets : (fuel : Nat) → Octets → Text
  | 0, _ => []
  | _, [] => []
  | fuel + 1, o =>
    (Base64.encode (o.take octetsPerLine)).map (fun b => CodePoint.ofNat b.toNat) ++
      .char '\n' :: linesOfOctets fuel (o.drop octetsPerLine)

/-- The tag and the text of a value that is no collection. -/
def ofValue : Value → Tag × Text
  | .null => (.null, "null")
  | .bool b => (.bool, if b then "true" else "false")
  | .int n => (.int, Text.ofInt n)
  | .float x => (.float, ofFloat x)
  | .octets o => (.octets, linesOfOctets o.length o)
  | .day d => (.moment, d.iso)
  | .moment m => (.moment, m.iso " ")
  | v => (.text, v.plain)

end Scalar

/-! ## Collections -/

namespace Node

/-- The next number of a node, and the numbers of the nodes of what is shared. -/
structure Numbering where
  fresh : Nat := 0
  known : Assoc Nat Nat := []

/-- Numbers a node. What is shared is known by its number from then on. -/
def number (shared : Option Nat) : StateM Numbering Nat := do
  let s ← get
  let known :=
    match shared with
    | some id => s.known.put id s.fresh
    | none => s.known
  set (⟨s.fresh + 1, known⟩ : Numbering)
  return s.fresh

/-- The node of what is shared, if it has one. -/
def known? (shared : Option Nat) : StateM Numbering (Option Nat) := do
  return shared.bind ((← get).known.get? ·)

/-- The tag of two values side by side. -/
def pairTag : Tag := .unknown "tag:yaml.org,2002:python/tuple"

/-- The node of a value that is no collection. -/
def ofScalar (shared : Option Nat) (v : Value) : StateM Numbering Node := do
  let (tag, t) := Scalar.ofValue v
  match ← known? shared with
  | some id => return .mention id
  | none => return .scalar (← number shared) tag t

mutual

/-- The node of a datum. -/
def ofDatum : Datum → StateM Numbering Node
  | .plain v => ofScalar none v
  | .day shared d => ofScalar shared (.day d)
  | .moment shared m => ofScalar shared (.moment m)
  | .cycle shared _ => do
    match ← known? (some shared) with
    | some id => return .mention id
    | none => return .scalar (← number (some shared)) .null "null"
  | .pair first second => do
    let id ← number none
    return .sequence id pairTag [← ofDatum first, ← ofDatum second]
  | .list shared items => do
    match ← known? shared with
    | some id => return .mention id
    | none =>
      let id ← number shared
      return .sequence id .list (← ofData items)
  | .map shared entries => do
    match ← known? shared with
    | some id => return .mention id
    | none =>
      let id ← number shared
      return .mapping id .map (← ofEntries entries)
  | .set shared members => do
    match ← known? shared with
    | some id => return .mention id
    | none =>
      let id ← number shared
      return .mapping id .set (← ofMembers members)

/-- The nodes of the items of a collection. -/
def ofData : List Datum → StateM Numbering (List Node)
  | [] => return []
  | d :: rest => do
    let n ← ofDatum d
    return n :: (← ofData rest)

/-- The nodes of the entries of a mapping. -/
def ofEntries : List (Datum × Datum) → StateM Numbering (List (Node × Node))
  | [] => return []
  | (k, v) :: rest => do
    let key ← ofDatum k
    let value ← ofDatum v
    return (key, value) :: (← ofEntries rest)

/-- The nodes of the members of a set, each being the key of nothing. -/
def ofMembers : List Datum → StateM Numbering (List (Node × Node))
  | [] => return []
  | d :: rest => do
    let key ← ofDatum d
    let value ← ofScalar none .null
    return (key, value) :: (← ofMembers rest)

end

mutual

/-- The numbers that are mentioned in a tree, in the order of their mentions. -/
def mentions : Node → List Nat
  | .scalar .. => []
  | .mention id => [id]
  | .sequence _ _ items => mentionsIn items
  | .mapping _ _ entries => mentionsAmong entries

/-- The numbers that are mentioned in the trees of a list. -/
def mentionsIn : List Node → List Nat
  | [] => []
  | n :: rest => n.mentions ++ mentionsIn rest

/-- The numbers that are mentioned in the trees of some entries. -/
def mentionsAmong : List (Node × Node) → List Nat
  | [] => []
  | (k, v) :: rest => k.mentions ++ v.mentions ++ mentionsAmong rest

end

end Node

end Yaml

end MailFilter
