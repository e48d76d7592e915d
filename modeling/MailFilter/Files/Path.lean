import MailFilter.Text.Basic

/-!
# Paths

A path is a root and the names behind it. Blank names and names of one dot lead nowhere and are left
out; names of two dots stay, for what they lead to depends on the files.

- `Path.ofText`: the path of a text in normal form.
- `Path.asGiven`: the path of a text with every name that is looked up on the way.
- `Path.text`: the text of a path.
- `Path.append`, `Path.parent`, `Path.stem`: longer and shorter paths, and names without their ending.
- `Path.names_append`: a relative path goes on where the other one ends.
-/

namespace MailFilter

/-- A root and the names behind it. -/
structure Path where
  /-- Nothing, one slash, or the two slashes that some systems tell from one. -/
  root : Text
  names : List Text
  deriving DecidableEq, Inhabited

namespace Path

/-- The name of the directory in which it is looked up. -/
def hereName : Text := "."

/-- The name of the directory above. -/
def aboveName : Text := ".."

/-- The root of the path of a text. -/
def rootOf (t : Text) : Text :=
  match (t.takeWhile (· = .char '/')).length with
  | 0 => []
  | 2 => "//"
  | _ => "/"

/-- The names in a text. -/
def namesOf (t : Text) : List Text :=
  (Text.splitOn (.char '/') t).filter fun name => !name.isEmpty

/-- The path of a text in normal form. -/
def ofText (t : Text) : Path :=
  ⟨rootOf t, (namesOf t).filter (· ≠ hereName)⟩

/-- The path of a text as it is looked up name by name. What a slash follows has to be a
directory. -/
def asGiven (t : Text) : Path :=
  let last : List Text := if t.endsWith "/" then [hereName] else []
  ⟨rootOf t, namesOf t ++ last⟩

/-- The text of a path. -/
def text (p : Path) : Text :=
  if p.root.isEmpty && p.names.isEmpty then hereName else p.root ++ Text.join "/" p.names

/-- The second path as seen from the first. -/
def append (p q : Path) : Path :=
  if q.root.isEmpty then ⟨p.root, p.names ++ q.names⟩ else q

instance : HDiv Path Path Path := ⟨append⟩

/-- The path without its last name. -/
def parent (p : Path) : Path :=
  { p with names := p.names.dropLast }

/-- The last name. -/
def name (p : Path) : Text :=
  p.names.getLast?.getD []

/-- The last name without its ending. A dot at the beginning or the end begins no ending. -/
def stem (p : Path) : Text :=
  match Text.cutLast? (.char '.') p.name with
  | some (before, after) => if before.isEmpty || after.isEmpty then p.name else before
  | none => p.name

/-- A relative path goes on where the other one ends. -/
theorem names_append (p q : Path) (h : q.root = []) : (p / q).names = p.names ++ q.names := by
  show (append p q).names = _
  simp [append, h]

theorem length_names_parent (p : Path) : p.parent.names.length = p.names.length - 1 := by
  simp [parent]

end Path

end MailFilter
