import MailFilter.Yaml.Style

/-!
# Pages

What has been written of a document, and what the next mark depends on: the column, whether a blank
is needed, and whether the line so far holds only marks that stand for indentation.

- `Page.mark`, `Page.indent`: marks with the blanks in front of them, and new lines.
- `Page.writeScalar`: a scalar in a style. Long lines are broken at blanks.
-/

namespace MailFilter

namespace Yaml

/-- What has been written, and where. -/
structure Page where
  text : Text := []
  column : Nat := 0
  /-- Whether a mark can follow without a blank. -/
  isFree : Bool := true
  /-- Whether the line holds only blanks and marks of indentation. -/
  isIndented : Bool := true
  deriving Inhabited

namespace Page

/-- Past this column a line is broken at the next chance. -/
def width : Nat := 80

/-- The blanks by which each level is indented. -/
def level : Nat := 2

/-- Writes a text. -/
def put (p : Page) (t : Text) : Page :=
  { p with text := p.text ++ t, column := p.column + t.length }

/-- Ends a line. -/
def newline (p : Page) : Page :=
  ⟨p.text ++ [.char '\n'], 0, true, true⟩

/-- Goes to a column on a line of its own. Marks of indentation may stand before it. -/
def indent (p : Page) (column : Nat) : Page :=
  let p :=
    if !p.isIndented || column < p.column || (p.column = column && !p.isFree) then p.newline else p
  if p.column < column then
    { p.put (List.replicate (column - p.column) (.char ' ')) with isFree := true }
  else p

/-- Writes a mark behind a blank, unless none is needed. -/
def mark (p : Page) (t : Text) : Page :=
  { p.put (if p.isFree then t else .char ' ' :: t) with isFree := false, isIndented := false }

/-- Writes a mark that is right behind what it belongs to. -/
def closing (p : Page) (t : Text) : Page :=
  { p.put t with isFree := false, isIndented := false }

/-- Writes a mark that indents what follows. -/
def bullet (p : Page) (t : Text) : Page :=
  { p.mark t with isIndented := p.isIndented }

/-- Goes to the next line of a scalar. -/
def scalarLine (p : Page) (column : Nat) : Page :=
  { p.indent column with isFree := false, isIndented := false }

/-! ## Scalars -/

/-- The parts of a text that hold only blanks, only line ends, or neither. -/
def runsOf (t : Text) : List Text :=
  t.splitBy fun a b =>
    (a = .char ' ') = (b = .char ' ') && (a = .char '\n') = (b = .char '\n')

/-- Writes a run. A single blank inside a text may become a line end if `folds`; each line end is
written once more than it stands there, for the first of several is dropped by a reader. -/
def writeRun (column : Nat) (folds isEdge : Bool) (written : CodePoint → Text) (run : Text)
    (p : Page) : Page :=
  if run.head? = some (.char '\n') then
    (run.foldl (fun p _ => p.newline) p.newline).indent column
  else if run = [.char ' '] && !isEdge && folds && width < p.column then p.scalarLine column
  else p.put (run.flatMap written)

/-- Writes the runs of a text. -/
def writeRuns (column : Nat) (folds : Bool) (written : CodePoint → Text) :
    (isFirst : Bool) → List Text → Page → Page
  | _, [], p => p
  | isFirst, run :: rest, p =>
    writeRuns column folds written false rest
      (p.writeRun column folds (isFirst || rest.isEmpty) written run)

/-- Writes a text plainly. -/
def writePlain (column : Nat) (folds : Bool) (t : Text) (p : Page) : Page :=
  (p.mark []).writeRuns column folds ([·]) true (runsOf t)

/-- Writes a text in single quotes. Quotes inside are written twice. -/
def writeSingle (column : Nat) (folds : Bool) (t : Text) (p : Page) : Page :=
  let written (c : CodePoint) : Text := if c = .char '\'' then [c, c] else [c]
  ((p.mark "'").writeRuns column folds written true (runsOf t)).closing "'"

/-- Goes on with a text in double quotes on the next line. A blank at its beginning is escaped. -/
def continueLine (column : Nat) (isBlankNext : Bool) (p : Page) : Page :=
  let p := (p.put "\\").scalarLine column
  if isBlankNext then p.put "\\" else p

/-- Writes the code points of a text with their escapes. A long line is broken at a blank, or beside
an escape. -/
def writeEscaped (column : Nat) (folds : Bool) :
    (isFirst afterEscape : Bool) → Text → Page → Page
  | _, _, [], p => p
  | isFirst, afterEscape, c :: rest, p =>
    let breaks := folds && !isFirst && !rest.isEmpty
    match Scalar.escape? c with
    | some escape =>
      let p := p.put escape
      let p :=
        if breaks && width + 1 < p.column then
          p.continueLine column (rest.head? = some (.char ' '))
        else p
      writeEscaped column folds false true rest p
    | none =>
      let p :=
        if breaks && (c = .char ' ' || afterEscape) && width < p.column then
          p.continueLine column (c = .char ' ')
        else p
      writeEscaped column folds false false rest (p.put [c])

/-- Writes a text in double quotes. -/
def writeDouble (column : Nat) (folds : Bool) (t : Text) (p : Page) : Page :=
  ((p.mark "\"").writeEscaped column folds true false t).closing "\""

/-- Writes the lines of a text that ends with a line end as a block. -/
def writeLiteral (column : Nat) (t : Text) (p : Page) : Page :=
  (Text.splitOn (.char '\n') t).dropLast.foldl (fun p line => ((p.indent column).put line).newline)
    (p.mark "|").newline

/-- Writes a scalar. Lines are only broken where the scalar does not have to stand on one line. -/
def writeScalar (style : Style) (column : Nat) (folds : Bool) (t : Text) (p : Page) : Page :=
  match style with
  | .plain => p.writePlain column folds t
  | .single => p.writeSingle column folds t
  | .double => p.writeDouble column folds t
  | .literal => p.writeLiteral column t

end Page

end Yaml

end MailFilter
