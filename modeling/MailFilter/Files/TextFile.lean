import MailFilter.Files.Tree

/-!
# Text files

- `Text.unifyLineEnds`: every line end becomes a line feed.
- `FileTree.readText`: the text of a file.
-/

namespace MailFilter

namespace Text

/-- Every line end becomes a line feed: a carriage return, with the line feed behind it or without
one. -/
def unifyLineEnds : Text → Text
  | [] => []
  | .char '\r' :: .char '\n' :: rest => .char '\n' :: unifyLineEnds rest
  | c :: rest => (if c = .char '\r' then .char '\n' else c) :: unifyLineEnds rest

end Text

namespace FileTree

/-- The text of a file, which has to be UTF-8. -/
def readText (t : FileTree) (p : Path) : Except Failure Text := do
  match Utf8.decode? (← t.read p) with
  | some text => .ok text.unifyLineEnds
  | none => .error (.fault .undecodable)

end FileTree

end MailFilter
