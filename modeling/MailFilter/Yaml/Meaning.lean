import MailFilter.Decimal.Reading
import MailFilter.Text.Base64
import MailFilter.Value.Shared
import MailFilter.Yaml.Node

/-!
# The meaning of nodes

A node means a value of the kind that its tag names. The text of a scalar has to be a value of that
kind, a mapping takes over the entries of the mappings that it is merged with, and a key has to be
something that cannot change.

- `Scalar.integer?`, `Scalar.float?`, `Scalar.moment?`: the values of scalars.
- `Node.survey`: finds the first trouble, collections being looked into in the order in which they
  are first met, the outer ones before the inner ones.
- `Node.datum`: the value of a node.
- `Yaml.read`: the value of the document in a text.
-/

namespace MailFilter

namespace Yaml

/-! ## Scalars -/

namespace Scalar

/-- The number of digits of a base that is a power of two. Underscores may stand between digits. -/
def digits? (base : Nat) (t : Text) : Option Nat :=
  if t.isEmpty then none
  else t.foldlM (fun n c =>
    match c.hexValue? with
    | some d => if d < base then some (base * n + d) else none
    | none => none) 0

/-- An integer in base ten. -/
def decimal (t : Text) : Result Int :=
  match Text.integer? digitLimit t with
  | some n => .ok n
  | none => .error (.fault .badValue)

/-- A number of a base that is a power of two. -/
def inBase (base : Nat) (t : Text) : Result Int :=
  match digits? base t with
  | some n => .ok n
  | none => .error (.fault .badValue)

/-- The value of an integer: in base two, eight, ten or sixteen, or in groups of sixtieths. -/
def integer (t : Text) : Result Int := do
  let t := t.filter (· ≠ .char '_')
  if t.isEmpty then .error (.fault .missingPosition)
  let (negative, t) := Decimal.splitSign t
  let signed (n : Int) : Int := if negative then -n else n
  match t with
  | [] => .error (.fault .missingPosition)
  | [.char '0'] => return 0
  | .char '0' :: .char 'b' :: digits => return signed (← inBase 2 digits)
  | .char '0' :: .char 'x' :: digits => return signed (← inBase 16 digits)
  | .char '0' :: .char 'o' :: digits => return signed (← inBase 8 digits)
  -- a zero in front of digits stands for base eight, and needs no letter
  | .char '0' :: digits => return signed (← inBase 8 digits)
  | t =>
    let groups ← (Text.splitOn (.char ':') t).mapM decimal
    return signed (groups.foldl (fun n digit => 60 * n + digit) 0)

/-- The value of a number with a fraction. In groups of sixtieths each group may have one. -/
def float (t : Text) : Result Float := do
  let t := Text.lower (t.filter (· ≠ .char '_'))
  if t.isEmpty then .error (.fault .missingPosition)
  let (negative, t) := Decimal.splitSign t
  let signed (x : Float) : Float := if negative then -x else x
  let number (t : Text) : Result Float :=
    match Decimal.float? t with
    | some x => .ok x
    | none => .error (.fault .badValue)
  if t = (".inf" : Text) then return signed (1.0 / 0.0)
  else if t = (".nan" : Text) then return 0.0 / 0.0
  else if t.contains (.char ':') then
    let groups ← (Text.splitOn (.char ':') t).mapM number
    -- from the last group to the first, each weighing sixty times the one behind it
    let add (sum : Float × Nat) (digit : Float) : Float × Nat :=
      (sum.1 + digit * Binary.ofInt sum.2, 60 * sum.2)
    return signed (groups.reverse.foldl add (0.0, 1)).1
  else return signed (← number t)

/-- The words for truth values in small letters. -/
def truths : List (Text × Bool) :=
  [("yes", true), ("no", false), ("true", true), ("false", false), ("on", true), ("off", false)]

/-- A truth value. -/
def truth (t : Text) : Result Bool :=
  match truths.find? fun (word, _) => word = t.lower with
  | some (_, b) => .ok b
  | none => .error (.fault .missingKey)

/-- A moment of a date with a time. Only six digits of the fraction of a second count. -/
def momentOf (day : Day) (time : Text × Text × Text × Text)
    (zone : Option (Option (Bool × Text × Text))) : Moment :=
  let (hour, minute, second, fraction) := time
  let number := Text.digitsValue
  -- shorter fractions are filled up with zeros
  let digits := fraction.take 6
  let micro := number digits * Nat.pow 10 (6 - digits.length)
  let offset : Option Int := zone.map fun zone =>
    match zone with
    | none => 0
    | some (negative, hours, minutes) =>
      let n : Int := number hours * 3600 + number minutes * 60
      if negative then -n else n
  ⟨day, number hour, number minute, number second, micro, offset⟩

/-- A day or a moment. -/
def moment (id : Nat) (t : Text) : Result Datum :=
  match Tag.dateParts? t with
  | none => .error (.fault .noOperation)
  | some p =>
    let day : Day := ⟨Text.digitsValue p.year, Text.digitsValue p.month, Text.digitsValue p.day⟩
    match p.time with
    | none => if day.isValid then .ok (.day (some id) day) else .error (.fault .badValue)
    | some time =>
      let m := momentOf day time p.zone
      if m.isValid && m.offset.all fun n => n.natAbs < 86400 then .ok (.moment (some id) m)
      else .error (.fault .badValue)

/-- The octets of base64 digits. -/
def octets (t : Text) : Result Octets :=
  if !t.all CodePoint.isAscii then malformed
  else match Base64.decode? (t.map fun c => UInt8.ofNat c.toNat) with
  | some o => .ok o
  | none => malformed

/-- The value of a scalar of a kind that is not a collection. -/
def datum (id : Nat) (tag : Tag) (t : Text) : Result Datum := do
  match tag with
  | .null => return .plain .null
  | .bool => return .plain (.bool (← truth t))
  | .int => return .plain (.int (← integer t))
  | .float => return .plain (.float (← float t))
  | .octets => return .plain (.octets (← octets t))
  | .moment => moment id t
  | .text => return .plain (.text t)
  | _ => malformed

end Scalar

/-! ## Collections -/

/-- Whether a tag names a collection. -/
def Tag.isCollection : Tag → Bool
  | .orderedMap | .pairs | .set | .list | .map => true
  | _ => false

namespace Node

/-- The tag of a node. -/
def tag : Node → Tag
  | .scalar _ tag _ | .sequence _ tag _ | .mapping _ tag _ => tag
  | .mention _ => .null

/-- The node itself in place of a mention of it. -/
def resolve (root n : Node) : Node :=
  match n with
  | .mention id => (root.find? id).getD n
  | n => n

/-- The text of a node that is to be a scalar. A mapping stands for its main value. -/
def scalarText? (root : Node) : (fuel : Nat) → Node → Option Text
  | 0, _ => none
  | fuel + 1, n =>
    match root.resolve n with
    | .scalar _ _ t => some t
    | .mapping _ _ entries =>
      match entries.find? fun (k, _) => (root.resolve k).tag = .mainValue with
      | some (_, v) => scalarText? root fuel v
      | none => none
    | _ => none

/-- The value of a node whose tag names no collection. -/
def scalarDatum (root n : Node) : Result Datum :=
  match n.tag with
  | .unknown _ | .merge | .mainValue => malformed
  | tag =>
    match scalarText? root (root.size + 1) n with
    | some t => Scalar.datum n.id tag t
    | none => malformed

/-- A key as it counts in a mapping: the key of a main value is a text. -/
def asKey (root k : Node) : Node :=
  match root.resolve k with
  | .scalar id .mainValue t => .scalar id .text t
  | k => k

/-- Whether a key asks for entries to be taken over. -/
def isMerge (root k : Node) : Bool :=
  (root.resolve k).tag = .merge

/-- The entries of a mapping, those that it takes over coming first. Of several mappings in a list
the last one comes first, so that the first one has the last word. -/
def entriesOf (root : Node) : (fuel : Nat) → Node → Result (List (Node × Node))
  | 0, _ => .ok []
  | fuel + 1, n =>
    match root.resolve n with
    | .mapping _ _ entries => do
      let own := entries.filter fun (k, _) => !root.isMerge k
      let merged ← (entries.filter fun (k, _) => root.isMerge k).mapM fun (_, v) =>
        match root.resolve v with
        | .mapping .. => entriesOf root fuel v
        | .sequence _ _ items => do
          let parts ← items.mapM fun item => entriesOf root fuel item
          -- an entry that comes later takes the place of an earlier one
          return parts.reverse.flatten
        | _ => malformed
      return merged.flatten ++ own.map fun (k, v) => (root.asKey k, v)
    | _ => malformed

/-- The only entry of a mapping. -/
def entry? (root n : Node) : Option (Node × Node) :=
  match root.resolve n with
  | .mapping _ _ [entry] => some entry
  | _ => none

/-- The items of a sequence. -/
def itemsOf (root n : Node) : Result (List Node) :=
  match root.resolve n with
  | .sequence _ _ items => .ok items
  | _ => malformed

/-! ## The first trouble -/

/-- Which nodes have been met, and the collections that are still to be looked into. -/
structure Survey where
  met : List Nat := []
  waiting : List Node := []

/-- Meets a node for the first time or again. -/
def meet (root n : Node) : StateT Survey Result Unit := do
  let n := root.resolve n
  -- a mention leads to a node that has been looked at
  if (← get).met.contains n.id then return
  if n.tag.isCollection then
    modify fun s => ⟨n.id :: s.met, s.waiting ++ [n]⟩
  else
    let _ ← scalarDatum root n
    modify fun s => { s with met := n.id :: s.met }

/-- Meets a key, which must not be a collection. -/
def meetKey (root k : Node) : StateT Survey Result Unit := do
  meet root k
  if (root.resolve k).tag.isCollection then throw .malformed

/-- Meets all nodes in a collection. -/
def lookInto (root n : Node) : StateT Survey Result Unit := do
  match n.tag with
  | .list => (← root.itemsOf n).forM (meet root)
  | .map | .set =>
    for (k, v) in ← entriesOf root (root.size + 1) n do
      meetKey root k
      meet root v
  -- an ordered mapping or a list of pairs has items with one entry each
  | _ =>
    for item in ← root.itemsOf n do
      match root.entry? item with
      | some (k, v) =>
        meet root k
        meet root v
      | none => throw .malformed

/-- Looks into the collections that have been met until none is left. -/
def lookIntoAll (root : Node) : (fuel : Nat) → StateT Survey Result Unit
  | 0 => return ()
  | fuel + 1 => do
    match (← get).waiting with
    | [] => return ()
    | n :: rest =>
      modify fun s => { s with waiting := rest }
      lookInto root n
      lookIntoAll root fuel

/-- Finds the first trouble in a document. -/
def survey (root : Node) : Result Unit :=
  (do meet root root; lookIntoAll root (root.size + 1) : StateT Survey Result Unit).run' {}

/-! ## Values -/

/-- The value of a node. `around` are the collections that it stands in. -/
def datumIn (root : Node) : (fuel : Nat) → (around : List Nat) → Node → Result Datum
  | 0, _, _ => .error (.fault .tooDeep)
  | fuel + 1, around, n => do
    let n := root.resolve n
    let id := n.id
    -- a mention of a collection in itself would not come to an end
    if around.contains id then return .cycle id (n.tag = .map)
    let inside := datumIn root fuel (id :: around)
    let pair (item : Node) : Result Datum :=
      match root.entry? item with
      | some (k, v) => do return .pair (← inside k) (← inside v)
      | none => malformed
    let entries : Result (List (Datum × Datum)) := do
      let entries ← entriesOf root (root.size + 1) n
      let entries ← entries.mapM fun (k, v) => do return (← inside k, ← inside v)
      return entries.foldl (fun table (k, v) => Datum.put k v table) []
    match n.tag with
    | .list => return .list (some id) (← (← root.itemsOf n).mapM inside)
    | .orderedMap | .pairs => return .list (some id) (← (← root.itemsOf n).mapM pair)
    | .map => return .map (some id) (← entries)
    | .set => return .set (some id) ((← entries).map Prod.fst)
    | _ => scalarDatum root n

/-- The value of the node of a document. -/
def datum (root : Node) : Result Datum := do
  survey root
  datumIn root (root.size + 1) [] root

end Node

/-- The value of the document in a text; an empty document is null. -/
def read (t : Text) : Result Datum := do
  match ← Node.ofTokens? (Token.ofText t) with
  | some node => node.datum
  | none => return .plain .null

end Yaml

end MailFilter
