import MailFilter.Yaml.Cursor

/-!
# Scalars

A scalar is a text that is written plainly, between quotes, or as a block of indented lines. Line
ends inside plain and quoted scalars are folded: one line end is a blank, and of several the first is
dropped.

- `Scalar.readPlain`: a plain scalar.
- `Scalar.readQuoted`: a quoted scalar; in double quotes a backslash begins an escape.
- `Scalar.readBlock`: a block, literal or folded.
-/

namespace MailFilter

namespace Yaml

namespace Scalar

/-! ## Plain scalars -/

/-- Whether a plain scalar ends before a text. Between brackets more marks end it. -/
def endsPlain (flow : Bool) : Text → Bool
  | [] => true
  | c :: rest =>
    isGap c || (flow && oneOf ",?[]\x7b\x7d" c) ||
      (c = .char ':' && rest.head?.all fun d => isGap d || (flow && oneOf ",[]\x7b\x7d" d))

/-- The part of a plain scalar up to the next gap. -/
def plainRun (flow : Bool) : Text → Text
  | [] => []
  | c :: rest => if endsPlain flow (c :: rest) then [] else c :: plainRun flow rest

/-- Line ends folded into one text. -/
def folded (first : CodePoint) (others : Text) : Text :=
  if first ≠ .char '\n' then first :: others
  else if others.isEmpty then [.char ' ']
  else others

/-- Reads blanks and line ends up to a mark between documents, in front of which there are none. -/
def readBreaks : (fuel : Nat) → Cursor → Option Text × Cursor
  | 0, k => (some [], k)
  | fuel + 1, k =>
    if k.seesAnyMark then (none, k)
    else
      let k := k.passBlanks
      match k.readBreak? with
      | none => (some [], k)
      | some (first, k) =>
        let (others, k) := readBreaks fuel k
        (others.map (first :: ·), k)

/-- What the gap inside a plain scalar means. -/
structure Gap where
  text : Text
  /-- Whether the gap holds a line end. -/
  hasBreak : Bool
  cursor : Cursor

/-- Reads a gap inside a plain scalar. -/
def readGap (k : Cursor) : Gap :=
  let (blanks, k) := k.span (oneOf " ")
  match k.readBreak? with
  | none => ⟨blanks, false, k⟩
  | some (first, k) =>
    let (others, k) := readBreaks (k.rest.length + 1) k
    ⟨(others.map (folded first)).getD [], true, k⟩

/-- Reads a plain scalar whose lines are indented by at least `indent`. Answers whether it ended
behind a line end. -/
def readPlainFrom (flow : Bool) (indent : Int) : (fuel : Nat) → Cursor → Text × Bool × Cursor
  | 0, k => ([], false, k)
  | fuel + 1, k =>
    let run := plainRun flow k.rest
    let gap := readGap (k.skip run.length)
    let k := gap.cursor
    -- a gap belongs to the scalar only if the scalar goes on behind it
    let stops := gap.text.isEmpty || k.sees (oneOf "#") || (!flow && k.column < indent) ||
      endsPlain flow k.rest
    if stops then (run, gap.hasBreak, k)
    else
      let (more, ended, k) := readPlainFrom flow indent fuel k
      (run ++ gap.text ++ more, ended, k)

/-- Reads a plain scalar. -/
def readPlain (flow : Bool) (indent : Int) (k : Cursor) : Text × Bool × Cursor :=
  readPlainFrom flow indent (k.rest.length + 1) k

/-! ## Quoted scalars -/

/-- The escapes that stand for one code point each. -/
def escapes : List (Char × Nat) :=
  [('0', 0), ('a', 7), ('b', 8), ('t', 9), ('\t', 9), ('n', 10), ('v', 11), ('f', 12), ('r', 13),
    ('e', 27), (' ', 32), ('"', 34), ('\\', 92), ('/', 47), ('N', 0x85), ('_', 0xA0), ('L', 0x2028),
    ('P', 0x2029)]

/-- The escapes that a number of hexadecimal digits follows. -/
def numericEscapes : List (Char × Nat) := [('x', 2), ('u', 4), ('U', 8)]

/-- The code point of a number. -/
def point (n : Nat) : Result CodePoint :=
  if Nat.pow 2 31 ≤ n then .error (.fault .overflow)
  else match CodePoint.ofNat? n with
  | some c => .ok c
  | none => .error (.fault .badValue)

/-- The number of hexadecimal digits. -/
def hexNumber? (digits : Text) : Option Nat :=
  digits.foldlM (fun n c => c.hexValue?.map (16 * n + ·)) 0

/-- Reads an escape with a number of hexadecimal digits. -/
def readNumeric (count : Nat) (k : Cursor) : Result (CodePoint × Cursor) := do
  let digits := k.rest.take count
  match hexNumber? digits with
  | some n => if digits.length < count then malformed else return (← point n, k.skip count)
  | none => malformed

/-- Reads blanks, tabs and line ends between the lines of a quoted scalar. No mark between documents
may stand there. -/
def readLines : (fuel : Nat) → Cursor → Result (Text × Cursor)
  | 0, k => .ok ([], k)
  | fuel + 1, k => do
    if k.seesAnyMark then malformed
    let k := k.pass (oneOf " \t")
    match k.readBreak? with
    | none => return ([], k)
    | some (first, k) =>
      let (others, k) ← readLines fuel k
      return (first :: others, k)

/-- Reads an escape behind its backslash. A line end that is escaped means nothing. -/
def readEscape (k : Cursor) : Result (Text × Cursor) := do
  match k.peek?, k.readBreak? with
  | _, some (_, k) => readLines (k.rest.length + 1) k
  | some (.char c), none =>
    match escapes.lookup c, numericEscapes.lookup c with
    | some n, _ => return ([CodePoint.ofNat n], k.next)
    | none, some count =>
      let (c, k) ← readNumeric count k.next
      return ([c], k)
    | none, none => malformed
  | _, none => malformed

/-- Reads the gap inside a quoted scalar. -/
def readQuotedGap (k : Cursor) : Result (Text × Cursor) := do
  let (blanks, k) := k.span (oneOf " \t")
  match k.readBreak? with
  | some (first, k) =>
    let (others, k) ← readLines (k.rest.length + 1) k
    return (folded first others, k)
  | none => if k.peek?.isNone then malformed else return (blanks, k)

/-- Reads a quoted scalar behind its opening quote. -/
def readQuotedFrom (double : Bool) : (fuel : Nat) → Cursor → Result (Text × Cursor)
  | 0, _ => malformed
  | fuel + 1, k => do
    let add (r : Result (Text × Cursor)) : Result (Text × Cursor) := do
      let (part, k) ← r
      let (more, k) ← readQuotedFrom double fuel k
      return (part ++ more, k)
    match k.rest with
    | [] => malformed
    | c :: rest =>
      if isGap c then add (readQuotedGap k)
      else if double && c = .char '\\' then add (readEscape k.next)
      else if c = (if double then .char '"' else .char '\'') then
        if !double && rest.head? = some (.char '\'') then add (.ok ([.char '\''], k.skip 2))
        else return ([], k.next)
      else add (.ok ([c], k.next))

/-- Reads a quoted scalar at its opening quote. -/
def readQuoted (double : Bool) (k : Cursor) : Result (Text × Cursor) :=
  readQuotedFrom double (k.rest.length + 1) k.next

/-! ## Blocks -/

/-- What becomes of the line ends behind a block. -/
inductive Chomping where
  | strip
  | clip
  | keep
  deriving DecidableEq

/-- Reads a sign that says what becomes of the last line ends. -/
def readChomping (k : Cursor) : Option Chomping × Cursor :=
  if k.sees (oneOf "+") then (some .keep, k.next)
  else if k.sees (oneOf "-") then (some .strip, k.next)
  else (none, k)

/-- Reads a digit that gives the indentation of a block, which is not zero. -/
def readIncrement (k : Cursor) : Result (Option Nat × Cursor) :=
  match k.peek? with
  | some c =>
    if !c.isDigit then .ok (none, k)
    else if c.digitValue = 0 then malformed
    else .ok (some c.digitValue, k.next)
  | none => .ok (none, k)

/-- Reads what is said about a block in its first line. -/
def readHeader (k : Cursor) : Result (Chomping × Option Nat × Cursor) := do
  let (before, k) := readChomping k
  let (increment, k) ← readIncrement k
  -- sign and digit may stand in either order
  let (after, k) := if before.isSome || increment.isNone then (none, k) else readChomping k
  if !k.seesEndOr (fun c => c = .char ' ' || isBreak c) then malformed
  return (((before <|> after).getD .clip), increment, ← k.endLine)

/-- Reads blanks and line ends before the first line of a block, and answers the greatest indentation
among them. -/
def readIndentation : (fuel deepest : Nat) → Cursor → Text × Nat × Cursor
  | 0, deepest, k => ([], deepest, k)
  | fuel + 1, deepest, k =>
    match k.readBreak? with
    | some (first, k) =>
      let (others, deepest, k) := readIndentation fuel deepest k
      (first :: others, deepest, k)
    | none =>
      if k.sees (oneOf " ") then readIndentation fuel (max deepest k.next.column) k.next
      else ([], deepest, k)

/-- Moves past blanks up to a column. -/
def passIndent (indent : Nat) (k : Cursor) : Cursor :=
  k.skip (((k.rest.take (indent - k.column)).takeWhile (oneOf " ")).length)

/-- Reads indentation and line ends between the lines of a block. -/
def readEmptyLines (indent : Nat) : (fuel : Nat) → Cursor → Text × Cursor
  | 0, k => ([], k)
  | fuel + 1, k =>
    let k := passIndent indent k
    match k.readBreak? with
    | none => ([], k)
    | some (first, k) =>
      let (others, k) := readEmptyLines indent fuel k
      (first :: others, k)

/-- The body of a block: its text, and the line ends behind it. -/
structure Body where
  text : Text
  /-- The end of the last line, which may be missing at the end of the text. -/
  lastBreak : Text
  /-- The line ends after that. -/
  breaks : Text
  cursor : Cursor

/-- Reads the lines of a block. `breaks` are the line ends before the next line. -/
def readLinesOfBlock (fold : Bool) (indent : Nat) : (fuel : Nat) → (breaks : Text) → Cursor → Body
  | 0, breaks, k => ⟨[], [], breaks, k⟩
  | fuel + 1, breaks, k =>
    if k.column ≠ indent || k.peek?.isNone then ⟨[], [], breaks, k⟩
    else
      let startsWithGap (k : Cursor) : Bool := k.sees (oneOf " \t")
      let (line, after) := k.span (!isBreak ·)
      let (lastBreak, after) : Text × Cursor :=
        match after.readBreak? with
        | some (c, after) => ([c], after)
        | none => ([], after)
      let (more, after) := readEmptyLines indent (after.rest.length + 1) after
      if after.column ≠ indent || after.peek?.isNone then
        ⟨breaks ++ line, lastBreak, more, after⟩
      else
        -- a line end is folded between two lines of which neither begins with a gap
        let folds := fold && lastBreak = [.char '\n'] && !startsWithGap k && !startsWithGap after
        let joint : Text :=
          if !folds then lastBreak else if more.isEmpty then [.char ' '] else []
        let body := readLinesOfBlock fold indent fuel more after
        { body with text := breaks ++ line ++ joint ++ body.text }

/-- Reads a block behind its mark. Its lines are indented deeper than `outer`. -/
def readBlock (fold : Bool) (outer : Int) (k : Cursor) : Result (Text × Cursor) := do
  let (chomping, increment, k) ← readHeader k
  let least : Nat := max 1 (outer + 1).toNat
  let (breaks, indent, k) : Text × Nat × Cursor :=
    match increment with
    | none =>
      let (breaks, deepest, k) := readIndentation (k.rest.length + 1) 0 k
      (breaks, max least deepest, k)
    -- a given indentation is counted from that of the block outside
    | some n =>
      let indent := least + n - 1
      let (breaks, k) := readEmptyLines indent (k.rest.length + 1) k
      (breaks, indent, k)
  let body := readLinesOfBlock fold indent (k.rest.length + 1) breaks k
  let tail : Text :=
    match chomping with
    | .strip => []
    | .clip => body.lastBreak
    | .keep => body.lastBreak ++ body.breaks
  return (body.text ++ tail, body.cursor)

end Scalar

end Yaml

end MailFilter
