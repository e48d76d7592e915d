import MailFilter.Assoc
import MailFilter.Yaml.Scalar

/-!
# Tokens

The first reading of a document finds its tokens: marks, scalars, and the beginnings and ends of
collections, which in block style are told by indentation alone. Whether a scalar is the key of a
mapping is known only when a colon follows it; until then its place is remembered, and the mark of a
key is put in there.

- `Token`: a token.
- `Scanner`: the state of the first reading.
- `Scanner.step`: reads the next token.
- `Token.ofText`: the tokens of a text. Trouble is a token too, the last one.
-/

namespace MailFilter

namespace Yaml

/-- A token of a document. -/
inductive Token where
  | streamEnd
  | documentStart
  | documentEnd
  /-- A line that gives the version of the format. -/
  | version (major : Nat)
  /-- A line that gives a short name to the beginning of tags. -/
  | tagHandle (handle stem : Text)
  /-- Any other line for the reader. -/
  | directive
  | blockSequenceStart
  | blockMappingStart
  | blockEnd
  | flowSequenceStart
  | flowSequenceEnd
  | flowMappingStart
  | flowMappingEnd
  | blockEntry
  | flowEntry
  | key
  | value
  | alias (name : Text)
  | anchor (name : Text)
  | tag (handle : Option Text) (suffix : Text)
  | scalar (isPlain : Bool) (text : Text)
  | broken (t : Trouble)

/-! ## Single tokens -/

namespace Token

/-- Reads a name behind a mark. -/
def readName (k : Cursor) : Result (Text × Cursor) :=
  match k.span isNameMark with
  | ([], _) => malformed
  | (name, k) => .ok (name, k)

/-- Reads the name of an anchor behind its mark. -/
def readAnchorName (k : Cursor) : Result (Text × Cursor) := do
  let (name, k) ← readName k
  if k.seesEndOr fun c => isGap c || oneOf "?:,]\x7d%@\x60" c then return (name, k) else malformed

/-- Reads the octets of percent escapes. -/
def readOctets : (fuel : Nat) → Cursor → Result (Octets × Cursor)
  | 0, k => .ok ([], k)
  | fuel + 1, k =>
    match k.rest with
    | .char '%' :: a :: b :: _ =>
      match a.hexValue?, b.hexValue? with
      | some high, some low => do
        let (octets, k) ← readOctets fuel (k.skip 3)
        return (UInt8.ofNat (16 * high + low) :: octets, k)
      | _, _ => malformed
    | .char '%' :: _ => malformed
    | _ => .ok ([], k)

/-- Reads the rest of a tag. -/
def readSuffixFrom : (fuel : Nat) → Cursor → Result (Text × Cursor)
  | 0, k => .ok ([], k)
  | fuel + 1, k => do
    let add (part : Text) (k : Cursor) : Result (Text × Cursor) := do
      let (more, k) ← readSuffixFrom fuel k
      return (part ++ more, k)
    if k.sees (oneOf "%") then
      let (octets, k) ← readOctets (k.rest.length + 1) k
      match Utf8.decode? octets with
      | some t => add t k
      | none => malformed
    else match k.span fun c => isNameMark c || oneOf ";/?:@&=+$,.!~*'()[]" c with
    | ([], k) => return ([], k)
    | (part, k) => add part k

/-- Reads the rest of a tag, which is not empty. -/
def readSuffix (k : Cursor) : Result (Text × Cursor) := do
  let (suffix, after) ← readSuffixFrom (k.rest.length + 1) k
  if after.index = k.index then malformed else return (suffix, after)

/-- Reads a short name for the beginning of tags: a word between exclamation marks, or one of these
alone before a blank. -/
def readHandle (k : Cursor) : Result (Text × Cursor) := do
  if !k.sees (oneOf "!") then malformed
  if k.next.sees (oneOf " ") then return ("!", k.next)
  let (name, k) := k.next.span isNameMark
  if k.sees (oneOf "!") then return ("!" ++ name ++ "!", k.next) else malformed

/-- Whether a handle with two exclamation marks begins at the cursor. -/
def seesLongHandle (k : Cursor) : Bool :=
  let word := k.next.rest.takeWhile fun c => !(c = .char ' ' || isBreak c)
  word.contains (.char '!')

/-- Reads a tag. -/
def readTag (k : Cursor) : Result (Token × Cursor) := do
  let (token, k) ←
    if k.next.sees (oneOf "<") then do
      let (suffix, k) ← readSuffix (k.skip 2)
      if k.sees (oneOf ">") then pure (Token.tag none suffix, k.next) else malformed
    else if k.next.seesEndOr isGap then pure (Token.tag none "!", k.next)
    else do
      let (handle, k) ← if seesLongHandle k then readHandle k else pure ("!", k.next)
      let (suffix, k) ← readSuffix k
      pure (Token.tag (some handle) suffix, k)
  if k.seesEndOr fun c => c = .char ' ' || isBreak c then return (token, k) else malformed

/-- Reads a number of a version. -/
def readVersionNumber (k : Cursor) : Result (Nat × Cursor) :=
  match k.span CodePoint.isDigit with
  | ([], _) => malformed
  | (digits, k) =>
    if digitLimit < digits.length then .error (.fault .badValue)
    else .ok (Text.digitsValue digits, k)

/-- Reads a line for the reader behind its mark. -/
def readDirective (k : Cursor) : Result (Token × Cursor) := do
  let endsWord (k : Cursor) : Bool := k.seesEndOr fun c => c = .char ' ' || isBreak c
  let (name, k) ← readName k
  if !endsWord k then malformed
  let (token, k) ←
    if name = ("YAML" : Text) then do
      let (major, k) ← readVersionNumber k.passBlanks
      if !k.sees (oneOf ".") then malformed
      let (_, k) ← readVersionNumber k.next
      if endsWord k then pure (Token.version major, k) else malformed
    else if name = ("TAG" : Text) then do
      let (handle, k) ← readHandle k.passBlanks
      if !k.sees (oneOf " ") then malformed
      let (stem, k) ← readSuffix k.passBlanks
      if endsWord k then pure (Token.tagHandle handle stem, k) else malformed
    else pure (Token.directive, k.pass (!isBreak ·))
  return (token, ← k.endLine)

end Token

/-! ## The first reading -/

/-- The place of a token that may turn out to be a key. -/
structure PendingKey where
  /-- How many tokens come before it. -/
  place : Nat
  /-- Whether nothing else can stand there. -/
  isRequired : Bool
  index : Nat
  line : Nat
  column : Nat

/-- The state of the first reading. -/
structure Scanner where
  cursor : Cursor
  /-- How many brackets are open. -/
  depth : Nat := 0
  /-- The tokens so far, in reverse. -/
  tokens : List Token := []
  /-- The indentation of the innermost block, `-1` outside of all. -/
  indent : Int := -1
  /-- The indentations of the blocks around it. -/
  outer : List Int := []
  /-- Whether a key may begin here. -/
  allowsKey : Bool := true
  /-- What may turn out to be a key, by the number of open brackets. -/
  pending : Assoc Nat PendingKey := []

namespace Scanner

/-- Adds a token. -/
def emit (s : Scanner) (t : Token) : Scanner :=
  { s with tokens := t :: s.tokens }

/-- Puts a token in at a place. -/
def insertAt (s : Scanner) (place : Nat) (t : Token) : Scanner :=
  -- tokens are kept in reverse, and places count from the first one
  let behind := s.tokens.length - place
  { s with tokens := s.tokens.take behind ++ t :: s.tokens.drop behind }

/-- Adds a mark of some code points. -/
def emitMark (s : Scanner) (t : Token) (width : Nat) : Scanner :=
  { s.emit t with cursor := s.cursor.skip width }

/-- Moves past blanks, comments and line ends. Behind a line end a key may begin. -/
def toNextToken : (fuel : Nat) → Scanner → Scanner
  | 0, s => s
  | fuel + 1, s =>
    let k := s.cursor.passBlanks.passComment
    match k.readBreak? with
    | none => { s with cursor := k }
    | some (_, k) =>
      -- between brackets a line end says nothing of keys
      toNextToken fuel { s with cursor := k, allowsKey := s.allowsKey || s.depth = 0 }

/-- Forgets what can no longer be a key, because its line has ended or it is too long. -/
def dropStale (s : Scanner) : Result Scanner :=
  -- a key has to end on its line and within 1024 code points, so that no more need be looked at
  let isStale (key : PendingKey) : Bool :=
    key.line ≠ s.cursor.line || 1024 < s.cursor.index - key.index
  if s.pending.any fun (_, key) => isStale key && key.isRequired then malformed
  else .ok { s with pending := s.pending.filter fun (_, key) => !isStale key }

/-- Forgets what may be a key between the same brackets. -/
def dropPending (s : Scanner) : Result Scanner :=
  match s.pending.get? s.depth with
  | none => .ok s
  | some key =>
    if key.isRequired then malformed
    else .ok { s with pending := s.pending.filter fun (depth, _) => depth ≠ s.depth }

/-- Remembers that the next token may turn out to be a key. -/
def savePending (s : Scanner) : Result Scanner := do
  if !s.allowsKey then return s
  -- at the indentation of a block mapping nothing but another key can stand
  let required := s.depth = 0 && s.indent = s.cursor.column
  let s ← s.dropPending
  let k := s.cursor
  return { s with
    pending := s.pending.put s.depth ⟨s.tokens.length, required, k.index, k.line, k.column⟩ }

/-- Ends the blocks that are indented deeper than a column. -/
def unwindTo (column : Int) : (outer : List Int) → Scanner → Scanner
  | [], s => s
  | next :: outer, s =>
    if column < s.indent then
      unwindTo column outer { s.emit .blockEnd with indent := next, outer }
    else s

/-- Ends the blocks that are indented deeper than a column, unless a bracket is open. -/
def unwind (s : Scanner) (column : Int) : Scanner :=
  if s.depth = 0 then unwindTo column s.outer s else s

/-- Begins a block at a column if it is deeper than the present one. -/
def indentTo (s : Scanner) (column : Int) : Option Scanner :=
  if s.indent < column then some { s with outer := s.indent :: s.outer, indent := column } else none

/-- Begins a collection in block style at the cursor, if none has begun there. -/
def beginBlock (s : Scanner) (start : Token) : Scanner :=
  -- at the column of a block that has begun another item or key of it follows
  match s.indentTo s.cursor.column with
  | some s => s.emit start
  | none => s

/-- Reads the end of the text. -/
def readEnd (s : Scanner) : Result Scanner := do
  let s ← (s.unwind (-1)).dropPending
  return s.emit .streamEnd

/-- Reads a mark between documents. -/
def readMark (s : Scanner) (t : Token) : Result Scanner := do
  let s ← (s.unwind (-1)).dropPending
  return { s.emitMark t 3 with allowsKey := false }

/-- Reads a line for the reader. -/
def readDirective (s : Scanner) : Result Scanner := do
  let s ← (s.unwind (-1)).dropPending
  let (token, k) ← Token.readDirective s.cursor.next
  return { s.emit token with cursor := k, allowsKey := false }

/-- Reads an opening bracket. -/
def readOpening (s : Scanner) (t : Token) : Result Scanner := do
  let s ← s.savePending
  return { s.emitMark t 1 with depth := s.depth + 1, allowsKey := true }

/-- Reads a closing bracket, which needs an open one. -/
def readClosing (s : Scanner) (t : Token) : Result Scanner := do
  let s ← s.dropPending
  if s.depth = 0 then malformed
  return { s.emitMark t 1 with depth := s.depth - 1, allowsKey := false }

/-- Reads a comma. -/
def readFlowEntry (s : Scanner) : Result Scanner := do
  let s ← s.dropPending
  return { s.emitMark .flowEntry 1 with allowsKey := true }

/-- Reads the dash before an item. -/
def readBlockEntry (s : Scanner) : Result Scanner := do
  if s.depth = 0 && !s.allowsKey then malformed
  let s := if s.depth = 0 then s.beginBlock .blockSequenceStart else s
  let s ← s.dropPending
  return { s.emitMark .blockEntry 1 with allowsKey := true }

/-- Reads the question mark before a key. -/
def readKey (s : Scanner) : Result Scanner := do
  if s.depth = 0 && !s.allowsKey then malformed
  let s := if s.depth = 0 then s.beginBlock .blockMappingStart else s
  let s ← s.dropPending
  return { s.emitMark .key 1 with allowsKey := s.depth = 0 }

/-- Reads the colon behind a key. -/
def readValue (s : Scanner) : Result Scanner := do
  match s.pending.get? s.depth with
  | some key =>
    let s := { s with pending := s.pending.filter fun (depth, _) => depth ≠ s.depth }
    -- what was read as a scalar or a collection was a key all along
    let s := s.insertAt key.place .key
    let s :=
      if s.depth = 0 then
        match s.indentTo key.column with
        | some s => s.insertAt key.place .blockMappingStart
        | none => s
      else s
    return { s.emitMark .value 1 with allowsKey := false }
  | none =>
    if s.depth = 0 && !s.allowsKey then malformed
    let s := if s.depth = 0 then s.beginBlock .blockMappingStart else s
    let s ← s.dropPending
    return { s.emitMark .value 1 with allowsKey := s.depth = 0 }

/-- Reads a token that may be a key. -/
def readPending (s : Scanner) (read : Cursor → Result (Token × Cursor)) : Result Scanner := do
  let s ← s.savePending
  let (token, k) ← read s.cursor
  return { s.emit token with cursor := k, allowsKey := false }

/-- Reads a plain scalar. -/
def readPlain (s : Scanner) : Result Scanner := do
  let s ← s.savePending
  let (t, ended, k) := Scalar.readPlain (s.depth ≠ 0) (s.indent + 1) s.cursor
  return { s.emit (.scalar true t) with cursor := k, allowsKey := ended }

/-- Reads a block scalar. -/
def readBlock (s : Scanner) (fold : Bool) : Result Scanner := do
  let s ← s.dropPending
  let (t, k) ← Scalar.readBlock fold s.indent s.cursor.next
  return { s.emit (.scalar false t) with cursor := k, allowsKey := true }

/-- Whether a plain scalar can begin at the cursor. -/
def seesPlain (s : Scanner) (c : CodePoint) (next : Option CodePoint) : Bool :=
  !(isGap c || oneOf "-?:,[]\x7b\x7d#&*!|>'\"%@\x60" c) ||
    (next.any (!isGap ·) && (c = .char '-' || (s.depth = 0 && oneOf "?:" c)))

/-- Reads the token at the cursor, which begins with a code point. -/
def readToken (s : Scanner) (c : CodePoint) : Result Scanner :=
  let k := s.cursor
  let inFlow : Bool := s.depth ≠ 0
  let gapFollows : Bool := (k.peekAt? 1).all isGap
  let isMark (mark : Char) : Bool := c = .char mark
  -- marks of lines and documents count at the beginning of a line only
  if isMark '%' && k.column = 0 then s.readDirective
  else if k.column = 0 && k.seesMark "---" then s.readMark .documentStart
  else if k.column = 0 && k.seesMark "..." then s.readMark .documentEnd
  else if isMark '[' then s.readOpening .flowSequenceStart
  else if isMark '\x7b' then s.readOpening .flowMappingStart
  else if isMark ']' then s.readClosing .flowSequenceEnd
  else if isMark '\x7d' then s.readClosing .flowMappingEnd
  else if isMark ',' then s.readFlowEntry
  -- these three are marks in front of a gap, and may begin a scalar otherwise
  else if isMark '-' && gapFollows then s.readBlockEntry
  else if isMark '?' && (inFlow || gapFollows) then s.readKey
  else if isMark ':' && (inFlow || gapFollows) then s.readValue
  else if isMark '*' then
    s.readPending fun k => (Token.readAnchorName k.next).map fun (n, k) => (.alias n, k)
  else if isMark '&' then
    s.readPending fun k => (Token.readAnchorName k.next).map fun (n, k) => (.anchor n, k)
  else if isMark '!' then s.readPending Token.readTag
  else if isMark '|' && !inFlow then s.readBlock false
  else if isMark '>' && !inFlow then s.readBlock true
  else if isMark '\'' then
    s.readPending fun k => (Scalar.readQuoted false k).map fun (t, k) => (.scalar false t, k)
  else if isMark '"' then
    s.readPending fun k => (Scalar.readQuoted true k).map fun (t, k) => (.scalar false t, k)
  else if s.seesPlain c (k.peekAt? 1) then s.readPlain
  else malformed

/-- Reads the next token, and answers whether it was the last one. -/
def step (s : Scanner) : Result (Scanner × Bool) := do
  -- the column of the next token tells which blocks have ended before it
  let s ← (toNextToken (s.cursor.rest.length + 1) s).dropStale
  let s := s.unwind s.cursor.column
  match s.cursor.peek? with
  | none => return (← s.readEnd, true)
  | some c => return (← s.readToken c, false)

/-- Reads tokens up to the end of the text or to the first trouble. -/
def run : (fuel : Nat) → Scanner → List Token
  | 0, s => s.tokens.reverse
  | fuel + 1, s =>
    match s.step with
    | .ok (s, true) => s.tokens.reverse
    | .ok (s, false) => run fuel s
    | .error t => (s.emit (.broken t)).tokens.reverse

end Scanner

namespace Token

/-- A code point that may stand in a document. -/
def isAllowed (c : CodePoint) : Bool :=
  c.isIn [(0x09, 0x0A), (0x0D, 0x0D), (0x20, 0x7E), (0x85, 0x85), (0xA0, 0xD7FF),
    (0xE000, 0xFFFD), (0x10000, 0x10FFFF)]

/-- The tokens of a text. A byte order mark at its beginning is passed over. -/
def ofText (t : Text) : List Token :=
  if !t.all isAllowed then [.broken .malformed]
  else
    let k : Cursor := ⟨t, 0, 0, 0⟩
    let k := if k.sees fun c => c.toNat = 0xFEFF then k.next else k
    Scanner.run (t.length + 1) { cursor := k }

end Token

end Yaml

end MailFilter
