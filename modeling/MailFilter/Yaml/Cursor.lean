import MailFilter.Failure

/-!
# Cursors

Reading a document goes by lines and columns, because indentation carries its structure. A cursor is
the rest of the text together with the place where it begins.

- `Trouble`: why a document cannot be read.
- `isBreak`, `isGap`: code points that end a line, and those that separate tokens.
- `Cursor`: the rest of a text and its place; `Cursor.next`, `Cursor.skip`, `Cursor.span` move on.
- `Cursor.readBreak?`: reads a line end, and answers what it means.
-/

namespace MailFilter

namespace Yaml

/-- Why a document cannot be read. -/
inductive Trouble where
  /-- It does not follow the rules of the format. -/
  | malformed
  /-- It follows them, and a value in it is out of range. -/
  | fault (f : Fault)

/-- The result of reading. -/
abbrev Result := Except Trouble

/-- Refuses a document that does not follow the rules. -/
def malformed {α : Type} : Result α :=
  .error .malformed

/-- Whether a code point is one of the characters of a string. -/
def oneOf (marks : String) : CodePoint → Bool
  | .char c => marks.toList.contains c
  | .surrogate _ => false

/-- Ends a line. -/
def isBreak (c : CodePoint) : Bool :=
  oneOf "\n\r" c || c.isIn [(0x85, 0x85), (0x2028, 0x2029)]

/-- A blank, a tab or the end of a line. -/
def isGap (c : CodePoint) : Bool :=
  oneOf " \t" c || isBreak c

/-- A code point of the name of an anchor. -/
def isNameMark (c : CodePoint) : Bool :=
  c.isAlphanum || oneOf "-_" c

/-- The rest of a text and the place where it begins. -/
structure Cursor where
  rest : Text
  index : Nat := 0
  line : Nat := 0
  column : Nat := 0

namespace Cursor

/-- The code point at the cursor. -/
def peek? (k : Cursor) : Option CodePoint :=
  k.rest.head?

/-- The code point some places behind the cursor. -/
def peekAt? (k : Cursor) (distance : Nat) : Option CodePoint :=
  k.rest[distance]?

/-- Whether the code point at the cursor is of a class. -/
def sees (k : Cursor) (p : CodePoint → Bool) : Bool :=
  k.peek?.any p

/-- Whether the text ends at the cursor or goes on with a code point of a class. -/
def seesEndOr (k : Cursor) (p : CodePoint → Bool) : Bool :=
  k.peek?.all p

/-- Moves on by one code point. A byte order mark takes no column. -/
def next (k : Cursor) : Cursor :=
  match k.rest with
  | [] => k
  | c :: rest =>
    let ends := isBreak c && !(c = .char '\r' && rest.head? = some (.char '\n'))
    if ends then ⟨rest, k.index + 1, k.line + 1, 0⟩
    else ⟨rest, k.index + 1, k.line, if c.toNat = 0xFEFF then k.column else k.column + 1⟩

/-- Moves on by some code points. -/
def skip : (count : Nat) → Cursor → Cursor
  | 0, k => k
  | count + 1, k => skip count k.next

/-- Reads the code points of a class. -/
def span (k : Cursor) (p : CodePoint → Bool) : Text × Cursor :=
  let t := k.rest.takeWhile p
  (t, k.skip t.length)

/-- Moves past the code points of a class. -/
def pass (k : Cursor) (p : CodePoint → Bool) : Cursor :=
  (k.span p).2

/-- Moves past blanks. -/
def passBlanks (k : Cursor) : Cursor :=
  k.pass (oneOf " ")

/-- Moves past a comment, if there is one. -/
def passComment (k : Cursor) : Cursor :=
  if k.sees (oneOf "#") then k.pass (!isBreak ·) else k

/-- Reads a line end, and answers what it means: a line feed, or a separator of lines or paragraphs,
which stands for itself. -/
def readBreak? (k : Cursor) : Option (CodePoint × Cursor) :=
  match k.rest with
  | [] => none
  | c :: rest =>
    if c = .char '\r' && rest.head? = some (.char '\n') then some (.char '\n', k.skip 2)
    else if !isBreak c then none
    else some (if 0x2028 ≤ c.toNat then c else .char '\n', k.next)

/-- Whether a mark of three characters between documents stands at the cursor. -/
def seesMark (k : Cursor) (mark : Text) : Bool :=
  Text.startsWith k.rest mark && (k.peekAt? 3).all isGap

/-- Whether any mark between documents stands at the cursor. -/
def seesAnyMark (k : Cursor) : Bool :=
  k.seesMark "---" || k.seesMark "..."

/-- Moves past blanks, a comment and the end of the line; nothing else may stand there. -/
def endLine (k : Cursor) : Result Cursor :=
  let k := k.passBlanks.passComment
  match k.readBreak? with
  | some (_, k) => .ok k
  | none => if k.peek?.isNone then .ok k else malformed

end Cursor

end Yaml

end MailFilter
