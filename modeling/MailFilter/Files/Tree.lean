import MailFilter.Assoc
import MailFilter.Failure
import MailFilter.Files.Path
import MailFilter.Text.Utf8

/-!
# Trees of files

The files that a program can see, as a table from places to what stands there. A place is the list
of names that leads to it from the directory in which the program runs. Of what lies above that
directory, or below the root of all, only the directories on the way are known.

- `FileTree`: the files.
- `FileTree.place`: where a path leads.
- `FileTree.read`, `FileTree.write`, `FileTree.makeDirectories`: the operations.
- `FileTree.read_write`: what was written is read.
-/

namespace MailFilter

/-- What stands at a place. -/
inductive FileNode where
  | file (content : Octets)
  | directory
  deriving DecidableEq

/-- The names that lead to a place. -/
abbrev Place := List Text

/-- The files that a program can see. -/
structure FileTree where
  nodes : Assoc Place FileNode
  deriving Inhabited

namespace FileTree

/-- An empty directory. -/
def empty : FileTree := ⟨[]⟩

/-- The name of the root of all files. -/
def rootName : Text := "/"

/-- Whether a name leads upward, or to the root of all files. -/
def isUpward (name : Text) : Bool :=
  name = Path.aboveName || name = rootName

/-- What stands at a place. -/
def at? (t : FileTree) (place : Place) : Option FileNode :=
  if place.all isUpward then some .directory else t.nodes.get? place

/-- Where a name leads from a directory. -/
def step (place : Place) (name : Text) : Place :=
  if name = Path.hereName then place
  else if name = Path.aboveName then
    match place.getLast? with
    | none => [Path.aboveName]
    | some last =>
      if last = Path.aboveName then place ++ [Path.aboveName]
      else if last = rootName then place
      else place.dropLast
  else place ++ [name]

/-- The most octets of a name. -/
def nameLimit : Nat := 255

/-- Fewer octets than this make a path. -/
def pathLimit : Nat := 4096

/-- The number of octets of a text. -/
def octetCount (t : Text) : Nat :=
  ((Utf8.encodeKeeping? t).getD []).length

/-- Where names lead from a directory. Every name but the last has to be the name of a directory. -/
def walk (t : FileTree) : Place → List Text → Except FileError Place
  | place, [] => .ok place
  | place, name :: rest =>
    match t.at? place with
    | none => .error .notFound
    | some (.file _) => .error .notDirectory
    | some .directory =>
      if nameLimit < octetCount name then .error .nameTooLong else walk t (step place name) rest

/-- Refuses a text that cannot be a path. -/
def check (p : Path) : Except Failure Unit :=
  match Utf8.encodeKeeping? p.text with
  | none => .error (.fault .unencodable)
  | some octets =>
    if octets.contains 0 then .error (.fault .badValue)
    else if pathLimit ≤ octets.length then .error (.file .nameTooLong)
    else .ok ()

/-- The directory from which the names of a path lead on. -/
def origin (p : Path) : Place :=
  if p.root.isEmpty then [] else [rootName]

/-- Where a path leads. -/
def place (t : FileTree) (p : Path) : Except Failure Place :=
  match check p with
  | .error e => .error e
  | .ok _ =>
    match walk t (origin p) p.names with
    | .error e => .error (.file e)
    | .ok there => .ok there

/-- The content of a file. -/
def read (t : FileTree) (p : Path) : Except Failure Octets := do
  match t.at? (← t.place p) with
  | none => .error (.file .notFound)
  | some .directory => .error (.file .isDirectory)
  | some (.file content) => .ok content

/-- Whether a path leads to anything. What cannot be a path leads to nothing. -/
def reaches (t : FileTree) (p : Path) : Except Failure Bool :=
  match t.place p with
  | .ok place => .ok (t.at? place).isSome
  | .error (.file .nameTooLong) => .error (.file .nameTooLong)
  | .error _ => .ok false

/-- Whether a path leads to a directory. -/
def isDirectory (t : FileTree) (p : Path) : Bool :=
  match t.place p with
  | .ok place => t.at? place = some .directory
  | .error _ => false

/-- Gives a file a content. -/
def write (t : FileTree) (p : Path) (content : Octets) : Except Failure FileTree := do
  let place ← t.place p
  match t.at? place with
  | some .directory => .error (.file .isDirectory)
  | _ => .ok ⟨t.nodes.put place (.file content)⟩

/-- Makes a directory in a directory that is there. -/
def makeDirectory (t : FileTree) (p : Path) : Except Failure FileTree := do
  let place ← t.place p
  match t.at? place with
  | some _ => .error (.file .alreadyExists)
  | none => .ok ⟨t.nodes.put place .directory⟩

/-- Makes a directory, unless it is there. -/
def ensureDirectory (t : FileTree) (p : Path) : Except Failure FileTree :=
  match t.makeDirectory p with
  | .error (.file e) => if t.isDirectory p then .ok t else .error (.file e)
  | r => r

/-- Makes a directory and those that lead to it, unless they are there. -/
def makeDirectories (t : FileTree) (p : Path) : Except Failure FileTree :=
  match t.makeDirectory p with
  | .error (.file .notFound) =>
    if _h : p.names = [] then .error (.file .notFound)
    -- the directory above is missing
    else do
      let above ← makeDirectories t p.parent
      above.ensureDirectory p
  | .error (.file e) => if t.isDirectory p then .ok t else .error (.file e)
  | r => r
termination_by p.names.length
decreasing_by
  have := List.length_pos_iff.mpr ‹¬p.names = []›
  rw [Path.length_names_parent]
  omega

/-- The files with their paths, in the order in which they were made. -/
def files (t : FileTree) : List (Text × Octets) :=
  t.nodes.filterMap fun (place, node) =>
    match node with
    | .file content => some (Text.join "/" place, content)
    | .directory => none

/-! ## Laws -/

theorem at?_put (t : FileTree) (place other : Place) (node : FileNode)
    (h : other.all isUpward = false) :
    at? ⟨t.nodes.put place node⟩ other = if place = other then some node else t.at? other := by
  simp [at?, h, Assoc.get?_put]

/-- A file can be written without changing where any path led. -/
theorem walk_put {t : FileTree} {place : Place} (node : FileNode)
    (h : t.at? place ≠ some .directory) (names : List Text) (start target : Place)
    (found : walk t start names = .ok target) :
    walk ⟨t.nodes.put place node⟩ start names = .ok target := by
  induction names generalizing start with
  | nil => exact found
  | cons name rest ih =>
    unfold walk at found ⊢
    split at found
    · contradiction
    · contradiction
    · next there =>
      have kept : at? ⟨t.nodes.put place node⟩ start = some .directory := by
        cases hs : start.all isUpward with
        | true => simp [at?, hs]
        | false =>
          have apart : place ≠ start := fun same => h (same ▸ there)
          rw [at?_put t place start node hs, if_neg apart, there]
      rw [kept]
      split at found
      · contradiction
      · next short => simp [short, ih _ found]

theorem place_put {t : FileTree} {place : Place} (node : FileNode)
    (h : t.at? place ≠ some .directory) (p : Path) (target : Place)
    (found : t.place p = .ok target) :
    FileTree.place ⟨t.nodes.put place node⟩ p = .ok target := by
  unfold FileTree.place at found ⊢
  split at found
  · contradiction
  · next hc =>
    split at found
    · contradiction
    · next there hw => simpa [hc, walk_put node h p.names _ _ hw] using found

/-- Where a file has been written, its content stands. -/
theorem exists_place_of_write {t after : FileTree} {p : Path} {content : Octets}
    (h : t.write p content = .ok after) :
    ∃ place, after.place p = .ok place ∧ after.at? place = some (.file content) := by
  unfold write at h
  cases hp : t.place p with
  | error e => simp [hp, bind, Except.bind] at h
  | ok place =>
    simp only [hp, bind, Except.bind] at h
    split at h
    · contradiction
    · next free =>
      have apart : t.at? place ≠ some .directory := free
      -- what leads upward only is a directory, and nothing is written there
      have low : place.all isUpward = false := by
        cases hs : place.all isUpward with
        | true => exact absurd (by simp [at?, hs]) apart
        | false => rfl
      cases h
      exact ⟨place, place_put _ apart p place hp, by simp [at?_put t place place _ low]⟩

/-- What was written is read. -/
theorem read_write {t after : FileTree} {p : Path} {content : Octets}
    (h : t.write p content = .ok after) : after.read p = .ok content := by
  obtain ⟨place, hplace, hnode⟩ := exists_place_of_write h
  simp [read, hplace, bind, Except.bind, hnode]

/-- A file that has been written can be written again. -/
theorem exists_write_write {t after : FileTree} {p : Path} {content : Octets}
    (h : t.write p content = .ok after) (again : Octets) :
    ∃ final, after.write p again = .ok final := by
  obtain ⟨place, hplace, hnode⟩ := exists_place_of_write h
  refine ⟨⟨after.nodes.put place (.file again)⟩, ?_⟩
  simp [write, hplace, bind, Except.bind, hnode]

end FileTree

end MailFilter
