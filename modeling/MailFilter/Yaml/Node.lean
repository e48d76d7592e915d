import MailFilter.Yaml.Tag
import MailFilter.Yaml.Token

/-!
# Nodes

The second reading of a document makes a tree of its tokens: scalars, sequences and mappings, each
with a tag. A node may be given a name, an *anchor*, by which it is mentioned elsewhere; a mention
stands in the tree for the number of the node.

- `Node`: a node of the tree.
- `Node.ofTokens?`: the node of a document, if it is not empty.
- `Node.find?`: the node of a number.
-/

namespace MailFilter

namespace Yaml

/-- A node of a document. Nodes are numbered in the order in which they begin. -/
inductive Node where
  | scalar (id : Nat) (tag : Tag) (text : Text)
  | sequence (id : Nat) (tag : Tag) (items : List Node)
  | mapping (id : Nat) (tag : Tag) (entries : List (Node × Node))
  /-- A mention of a node elsewhere. -/
  | mention (id : Nat)
  deriving Inhabited

namespace Node

/-- The number of a node. -/
def id : Node → Nat
  | .scalar id _ _ | .sequence id _ _ | .mapping id _ _ | .mention id => id

/-- Whether a node is not a mention. -/
def isProper : Node → Bool
  | .mention _ => false
  | _ => true

mutual

/-- The node of a number in a tree. -/
def find? (wanted : Nat) (n : Node) : Option Node :=
  if n.isProper && n.id = wanted then some n
  else match n with
  | .sequence _ _ items => findIn? wanted items
  | .mapping _ _ entries => findAmong? wanted entries
  | .scalar .. | .mention _ => none

/-- The node of a number in the trees of a list. -/
def findIn? (wanted : Nat) : List Node → Option Node
  | [] => none
  | n :: rest => (find? wanted n).orElse fun _ => findIn? wanted rest

/-- The node of a number in the trees of some entries. -/
def findAmong? (wanted : Nat) : List (Node × Node) → Option Node
  | [] => none
  | (k, v) :: rest =>
    ((find? wanted k).orElse fun _ => find? wanted v).orElse fun _ => findAmong? wanted rest

end

mutual

/-- The number of nodes of a tree. -/
def size : Node → Nat
  | .scalar .. | .mention _ => 1
  | .sequence _ _ items => 1 + sizeOfAll items
  | .mapping _ _ entries => 1 + sizeOfEntries entries

/-- The number of nodes of the trees of a list. -/
def sizeOfAll : List Node → Nat
  | [] => 0
  | n :: rest => n.size + sizeOfAll rest

/-- The number of nodes of the trees of some entries. -/
def sizeOfEntries : List (Node × Node) → Nat
  | [] => 0
  | (k, v) :: rest => k.size + v.size + sizeOfEntries rest

end

end Node

/-! ## The second reading -/

/-- The state of the second reading. -/
structure Composer where
  tokens : List Token
  /-- The number of the next node. -/
  fresh : Nat := 0
  anchors : Assoc Text Nat := []
  handles : Assoc Text Text := []

/-- A step of the second reading. -/
abbrev Compose := StateT Composer Result

namespace Compose

/-- The beginnings of tags that have a short name in every document. -/
def commonHandles : Assoc Text Text := [("!", "!"), ("!!", Tag.commonStem)]

/-- The next token. -/
def peek : Compose Token := do
  match (← get).tokens with
  | [] => return .streamEnd
  | .broken t :: _ => throw t
  | t :: _ => return t

/-- Passes over the next token. -/
def drop : Compose Unit :=
  modify fun s => { s with tokens := s.tokens.drop 1 }

/-- Passes over a token if it is the next one. -/
def dropIf (p : Token → Bool) : Compose Bool := do
  if p (← peek) then
    drop
    return true
  else return false

/-- Refuses the document. -/
def refuse {α : Type} : Compose α :=
  throw .malformed

/-- The number of a new node. -/
def number : Compose Nat :=
  modifyGet fun s => (s.fresh, { s with fresh := s.fresh + 1 })

/-- A scalar without text. -/
def emptyScalar : Compose Node :=
  return .scalar (← number) (Tag.ofPlain []) []

/-- What stands before a node: its anchor and its tag. -/
structure Properties where
  anchor : Option Text := none
  tag : Option Text := none

/-- Reads an anchor. -/
def readAnchor (p : Properties) : Compose Properties := do
  match ← peek with
  | .anchor name =>
    drop
    return { p with anchor := some name }
  | _ => return p

/-- Reads a tag. -/
def readTag (p : Properties) : Compose Properties := do
  match ← peek with
  | .tag none suffix =>
    drop
    return { p with tag := some suffix }
  | .tag (some handle) suffix =>
    drop
    match (← get).handles.get? handle with
    | some stem => return { p with tag := some (stem ++ suffix) }
    | none => refuse
  | _ => return p

/-- Reads an anchor and a tag, in any order. -/
def readProperties : Compose Properties := do
  let p ← readAnchor {}
  -- an anchor may stand in front of the tag or behind it
  let p ← readTag p
  if p.anchor.isNone then readAnchor p else return p

/-- Numbers a node and gives it its anchor, which no other node may have. -/
def begin (p : Properties) : Compose Nat := do
  let id ← number
  match p.anchor with
  | none => return id
  | some name =>
    -- a name stands for one node in all of the document
    if ((← get).anchors.get? name).isSome then refuse
    modify fun s => { s with anchors := s.anchors.put name id }
    return id

/-- The tag of a collection. A single exclamation mark says nothing. -/
def collectionTag (p : Properties) (default : Tag) : Tag :=
  match p.tag with
  | none => default
  | some t => if t = ("!" : Text) then default else Tag.ofText t

/-- The tag of a scalar. A plain one without a tag gets one by its form, and so does any scalar whose
tag is a single exclamation mark. -/
def scalarTag (p : Properties) (plain : Bool) (t : Text) : Tag :=
  match p.tag with
  | none => if plain then Tag.ofPlain t else .text
  | some tag => if tag = ("!" : Text) then Tag.ofPlain t else Tag.ofText tag

/-- Tokens that can stand behind the mark of a key in block style where the key is empty. -/
def endsBlockPart : Token → Bool
  | .key | .value | .blockEnd => true
  | _ => false

/-- Tokens that can stand behind a dash where the item is empty. -/
def endsItem : Token → Bool
  | .blockEntry | .blockEnd => true
  | _ => false

/-- Tokens that can stand behind a dash that is not indented where the item is empty. -/
def endsIndentlessItem : Token → Bool
  | .blockEntry | .key | .value | .blockEnd => true
  | _ => false

/-- Whether a token is a comma or the given closing bracket. -/
def endsFlowPart (isClosing : Token → Bool) (t : Token) : Bool :=
  t matches .flowEntry || isClosing t

/-- How a node may be written. -/
structure Style where
  block : Bool
  /-- Whether a sequence may begin without indentation. -/
  indentless : Bool := false

mutual

/-- Reads a node. -/
def readNode (style : Style) : (fuel : Nat) → Compose Node
  | 0 => refuse
  | fuel + 1 => do
    match ← peek with
    | .alias name =>
      drop
      match (← get).anchors.get? name with
      | some id => return .mention id
      | none => refuse
    | _ =>
      let p ← readProperties
      let token ← peek
      match token with
      | .scalar plain t =>
        drop
        let id ← begin p
        return .scalar id (scalarTag p plain t) t
      | .flowSequenceStart =>
        drop
        let id ← begin p
        return .sequence id (collectionTag p .list) (← readFlowItems true fuel)
      | .flowMappingStart =>
        drop
        let id ← begin p
        return .mapping id (collectionTag p .map) (← readFlowEntries true fuel)
      | _ =>
        -- under a key the dashes of a sequence may stand in the column of the key
        if style.indentless && token matches .blockEntry then
          let id ← begin p
          return .sequence id (collectionTag p .list) (← readIndentlessItems fuel)
        else if style.block && token matches .blockSequenceStart then
          drop
          let id ← begin p
          return .sequence id (collectionTag p .list) (← readItems fuel)
        else if style.block && token matches .blockMappingStart then
          drop
          let id ← begin p
          return .mapping id (collectionTag p .map) (← readEntries fuel)
        -- a name or a tag alone is a node, without text
        else if p.anchor.isSome || p.tag.isSome then
          let id ← begin p
          return .scalar id (scalarTag p true []) []
        else refuse

/-- Reads a node, or an empty scalar before tokens that cannot begin one. -/
def readNodeUnless (ends : Token → Bool) (style : Style) : (fuel : Nat) → Compose Node
  | 0 => refuse
  | fuel + 1 => do if ends (← peek) then emptyScalar else readNode style fuel

/-- Reads the items of a sequence in block style. -/
def readItems : (fuel : Nat) → Compose (List Node)
  | 0 => refuse
  | fuel + 1 => do
    if ← dropIf (· matches .blockEntry) then
      let item ← readNodeUnless endsItem ⟨true, false⟩ fuel
      return item :: (← readItems fuel)
    else if ← dropIf (· matches .blockEnd) then return []
    else refuse

/-- Reads the items of a sequence in block style that is not indented. -/
def readIndentlessItems : (fuel : Nat) → Compose (List Node)
  | 0 => refuse
  | fuel + 1 => do
    if ← dropIf (· matches .blockEntry) then
      let item ← readNodeUnless endsIndentlessItem ⟨true, false⟩ fuel
      return item :: (← readIndentlessItems fuel)
    else return []

/-- Reads the entries of a mapping in block style. A key without a value has an empty one. -/
def readEntries : (fuel : Nat) → Compose (List (Node × Node))
  | 0 => refuse
  | fuel + 1 => do
    if ← dropIf (· matches .key) then
      let key ← readNodeUnless endsBlockPart ⟨true, true⟩ fuel
      let value ←
        if ← dropIf (· matches .value) then readNodeUnless endsBlockPart ⟨true, true⟩ fuel
        else emptyScalar
      return (key, value) :: (← readEntries fuel)
    else if ← dropIf (· matches .blockEnd) then return []
    else refuse

/-- Reads a key and a value between brackets. -/
def readFlowPair (isClosing : Token → Bool) : (fuel : Nat) → Compose (Node × Node)
  | 0 => refuse
  | fuel + 1 => do
    let ends := endsFlowPart isClosing
    let key ← readNodeUnless (fun t => t matches .value || ends t) ⟨false, false⟩ fuel
    let value ←
      if ← dropIf (· matches .value) then readNodeUnless ends ⟨false, false⟩ fuel
      else emptyScalar
    return (key, value)

/-- Reads the items of a sequence in brackets. An item may be a mapping with one entry. -/
def readFlowItems (first : Bool) : (fuel : Nat) → Compose (List Node)
  | 0 => refuse
  | fuel + 1 => do
    let isClosing (t : Token) : Bool := t matches .flowSequenceEnd
    if ← dropIf isClosing then return []
    if !first then
      if !(← dropIf (· matches .flowEntry)) then refuse
    if ← dropIf isClosing then return []
    let item ←
      if ← dropIf (· matches .key) then do
        -- a key between brackets begins a mapping with nothing else in it
        let id ← number
        pure (Node.mapping id .map [← readFlowPair isClosing fuel])
      else readNode ⟨false, false⟩ fuel
    return item :: (← readFlowItems false fuel)

/-- Reads the entries of a mapping in brackets. A key may stand alone. -/
def readFlowEntries (first : Bool) : (fuel : Nat) → Compose (List (Node × Node))
  | 0 => refuse
  | fuel + 1 => do
    let isClosing (t : Token) : Bool := t matches .flowMappingEnd
    if ← dropIf isClosing then return []
    if !first then
      if !(← dropIf (· matches .flowEntry)) then refuse
    if ← dropIf isClosing then return []
    let entry ←
      if ← dropIf (· matches .key) then readFlowPair isClosing fuel
      else do
        let key ← readNode ⟨false, false⟩ fuel
        pure (key, ← emptyScalar)
    return entry :: (← readFlowEntries false fuel)

end

/-- Passes over tokens of a kind. -/
def dropAll (p : Token → Bool) : (fuel : Nat) → Compose Unit
  | 0 => return ()
  | fuel + 1 => do if ← dropIf p then dropAll p fuel

/-- Reads the lines for the reader before a document. There may be one version, the first one, and
one meaning of each short name. -/
def readDirectives (hasVersion : Bool) : (fuel : Nat) → Compose Unit
  | 0 => return ()
  | fuel + 1 => do
    match ← peek with
    | .version major =>
      if hasVersion || major ≠ 1 then refuse
      drop
      readDirectives true fuel
    | .tagHandle handle stem =>
      if ((← get).handles.get? handle).isSome then refuse
      modify fun s => { s with handles := s.handles.put handle stem }
      drop
      readDirectives hasVersion fuel
    | .directive =>
      drop
      readDirectives hasVersion fuel
    | _ => return ()

/-- Tokens that can stand behind the mark of a document that is empty. -/
def endsDocument : Token → Bool
  | .version _ | .tagHandle .. | .directive | .documentStart | .documentEnd | .streamEnd => true
  | _ => false

/-- Adds the short names that every document knows. -/
def addCommonHandles : Compose Unit :=
  modify fun s => { s with handles := commonHandles.foldl (fun handles (handle, stem) =>
    if (handles.get? handle).isSome then handles else handles.put handle stem) s.handles }

/-- Reads the only document of a text. -/
def readDocument (fuel : Nat) : Compose (Option Node) := do
  let isImplicit : Bool :=
    match ← peek with
    | .version _ | .tagHandle .. | .directive | .documentStart | .streamEnd => false
    | _ => true
  if (← peek) matches .streamEnd then return none
  if !isImplicit then readDirectives false fuel
  addCommonHandles
  let node ←
    -- without a line that begins it a document has no lines for the reader
    if isImplicit then readNode ⟨true, false⟩ fuel
    else do
      if !(← dropIf (· matches .documentStart)) then refuse
      readNodeUnless endsDocument ⟨true, false⟩ fuel
  dropAll (· matches .documentEnd) fuel
  if (← peek) matches .streamEnd then return some node else refuse

end Compose

/-- The node of the document that tokens make up, if it is not empty. -/
def Node.ofTokens? (tokens : List Token) : Result (Option Node) :=
  (Compose.readDocument (4 * tokens.length + 8)).run { tokens } |>.map Prod.fst

end Yaml

end MailFilter
