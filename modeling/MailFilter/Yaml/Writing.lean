import MailFilter.Yaml.Page
import MailFilter.Yaml.Shape

/-!
# Writing documents

Every sequence has its items below each other behind dashes, and every mapping its entries. A
sequence that is the value of an entry is not indented. A key stands on the line of its value if it
is short and on one line itself; another key has a question mark in front.

- `Node.write`: writes a node behind what it belongs to.
- `Yaml.write`: the document of a mapping.
-/

namespace MailFilter

namespace Yaml

namespace Tag

/-- The short name of a tag. -/
def shown (tag : Tag) : Text :=
  match names.find? fun (_, known) => known = tag with
  | some (name, _) => "!!" ++ (name : Text)
  | none =>
    match tag with
    | .unknown name =>
      match Text.dropPrefix? commonStem name with
      | some rest => "!!" ++ rest
      | none => name
    | _ => []

end Tag

/-- The names of the nodes that are mentioned. -/
abbrev Anchors := List Nat

namespace Anchors

/-- The name of a node, if it has one. -/
def nameOf? (anchors : Anchors) (id : Nat) : Option Text :=
  (anchors.idxOf? id).map fun n => "id" ++ Text.padded 3 (n + 1)

end Anchors

namespace Node

/-- The most code points of a key with its tag and its name that stands on the line of its value. -/
def keyLimit : Nat := 127

/-- Whether a key can stand on the line of its value. -/
def isSimpleKey (anchors : Anchors) : Node → Bool
  | .scalar id tag t =>
    let name := (anchors.nameOf? id).getD []
    !t.isEmpty && !Scalar.isMultiline t && name.length + tag.shown.length + t.length ≤ keyLimit
  | .mention _ => true
  | .sequence _ _ items => items.isEmpty
  | .mapping _ _ entries => entries.isEmpty

/-- Writes the name of a node, if it has one. -/
def writeName (anchors : Anchors) (id : Nat) (p : Page) : Page :=
  match anchors.nameOf? id with
  | some name => p.mark ("&" ++ name)
  | none => p

/-- Writes a scalar with what stands in front of it. -/
def writeScalar (anchors : Anchors) (column : Nat) (folds : Bool) (id : Nat) (tag : Tag)
    (t : Text) (p : Page) : Page :=
  let p := writeName anchors id p
  let style := Style.of tag t
  let p := if style.showsTag tag then p.mark tag.shown else p
  p.writeScalar style (column + Page.level) folds t

/-- Writes the name and the tag of a collection of which `common` is the usual tag. -/
def writeHead (anchors : Anchors) (common : Tag) (id : Nat) (tag : Tag) (p : Page) : Page :=
  let p := writeName anchors id p
  if tag = common then p else p.mark tag.shown

mutual

/-- Writes a node. `column` is that of the collection which it stands in, `isValue` says whether
that is a mapping, and `folds` whether its lines may be broken. -/
def write (anchors : Anchors) (column : Nat) (isValue folds : Bool) : Node → Page → Page
  | .mention id, p => p.mark ("*" ++ (anchors.nameOf? id).getD [])
  | .scalar id tag t, p => writeScalar anchors column folds id tag t p
  | .sequence id tag items, p =>
    let p := writeHead anchors .list id tag p
    if items.isEmpty then p.mark "[]"
    else
      let inside := if isValue && !p.isIndented then column else column + Page.level
      writeItems anchors inside items p
  | .mapping id tag entries, p =>
    let p := writeHead anchors .map id tag p
    if entries.isEmpty then p.mark "\x7b\x7d"
    else writeEntries anchors (column + Page.level) entries p

/-- Writes the items of a sequence. -/
def writeItems (anchors : Anchors) (column : Nat) : List Node → Page → Page
  | [], p => p
  | n :: rest, p =>
    let p := (p.indent column).bullet "-"
    writeItems anchors column rest (write anchors column false true n p)

/-- Writes the entries of a mapping. -/
def writeEntries (anchors : Anchors) (column : Nat) : List (Node × Node) → Page → Page
  | [], p => p
  | (k, v) :: rest, p =>
    let p := p.indent column
    let p :=
      if isSimpleKey anchors k then (write anchors column true false k p).closing ":"
      else
        let p := write anchors column true true k (p.bullet "?")
        (p.indent column).bullet ":"
    writeEntries anchors column rest (write anchors column true true v p)

end

end Node

/-- The document of a mapping. -/
def writeMapping (entries : List (Node × Node)) : Text :=
  let anchors : Anchors := (Node.mentionsAmong entries).eraseDups
  if entries.isEmpty then "\x7b\x7d\n"
  else ((Node.writeEntries anchors 0 entries {}).indent 0).text

/-- The document of the entries of a mapping, unless a number in it is too long to be written. -/
def write (entries : List (Datum × Datum)) : Except Fault Text :=
  if Value.entriesShowable (Datum.valuesOfEntries entries) then
    .ok (writeMapping ((Node.ofEntries entries).run {}).1)
  else .error .badValue

end Yaml

end MailFilter
