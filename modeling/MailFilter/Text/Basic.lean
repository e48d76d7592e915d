import MailFilter.Text.CodePoint

/-!
# Text

A text is the list of its code points, so lengths and positions count code points and the laws of
lists apply. String literals stand for texts through a coercion.

- `Text.ofString`, `Text.ofNat`, `Text.ofInt`: texts of literals and of numbers in decimal.
- `Text.cut?`, `Text.cutLast?`: the parts around the first or last occurrence of a separator.
- `Text.splitOn`, `Text.join`: the parts between separators and back.
- `Text.trimLeft`, `Text.trimRight`, `Text.trim`: dropping a class of code points at the ends.
- `Text.cut?_eq_some`: the two parts and the separator spell the text.
-/

namespace MailFilter

/-- A sequence of code points. -/
abbrev Text := List CodePoint

namespace Text

/-- The text of a string. -/
def ofString (s : String) : Text :=
  s.toList.map .char

instance : Coe String Text := ⟨ofString⟩

/-- The string of a text, if no code point is a lone surrogate. -/
def toString? (t : Text) : Option String :=
  (t.mapM scalar?).map String.ofList
where
  /-- The scalar value of a code point. -/
  scalar? : CodePoint → Option Char
    | .char c => some c
    | .surrogate _ => none

/-- The decimal digits of a number. -/
def ofNat (n : Nat) : Text :=
  (Nat.toDigits 10 n).map .char

/-- A number in decimal, with a minus sign below zero. -/
def ofInt (n : Int) : Text :=
  match n with
  | .ofNat n => ofNat n
  | .negSucc n => .char '-' :: ofNat (n + 1)

/-- A number in base sixteen with small digits, filled with zeros to a width. -/
def hex (width n : Nat) : Text :=
  let digits : Text := (Nat.toDigits 16 n).map .char
  List.replicate (width - digits.length) (.char '0') ++ digits

/-- A number in decimal, filled with zeros to a width. -/
def padded (width n : Nat) : Text :=
  let digits := ofNat n
  List.replicate (width - digits.length) (.char '0') ++ digits

/-- The text without a given beginning. -/
def dropPrefix? (start t : Text) : Option Text :=
  if start.isPrefixOf t then some (t.drop start.length) else none

/-- Whether a text begins with another. -/
def startsWith (t start : Text) : Bool :=
  start.isPrefixOf t

/-- Whether a text ends with another. -/
def endsWith (t last : Text) : Bool :=
  last.isSuffixOf t

/-- Whether a text begins with `start`, code points being compared by `same`. -/
def beginsBy (same : CodePoint → CodePoint → Bool) : (start t : Text) → Bool
  | [], _ => true
  | _ :: _, [] => false
  | p :: ps, c :: cs => same p c && beginsBy same ps cs

/-- Whether `part` occurs in a text, code points being compared by `same`. -/
def occursBy (same : CodePoint → CodePoint → Bool) (part : Text) : Text → Bool
  | [] => part.isEmpty
  | c :: rest => beginsBy same part (c :: rest) || occursBy same part rest

/-- Whether `part` occurs in a text. -/
def occurs (part t : Text) : Bool :=
  occursBy (· == ·) part t

/-- The parts before and after the first occurrence of a separator. -/
def cut? (sep : Text) : Text → Option (Text × Text)
  | [] => if sep.isEmpty then some ([], []) else none
  | c :: rest =>
    match dropPrefix? sep (c :: rest) with
    | some after => some ([], after)
    | none => (cut? sep rest).map fun (before, after) => (c :: before, after)

/-- The parts before and after the last occurrence of a code point. -/
def cutLast? (sep : CodePoint) : Text → Option (Text × Text)
  | [] => none
  | c :: rest =>
    match cutLast? sep rest with
    | some (before, after) => some (c :: before, after)
    | none => if c = sep then some ([], rest) else none

/-- The parts between the occurrences of a code point; a text without it is one part. -/
def splitOn (sep : CodePoint) : Text → List Text
  | [] => [[]]
  | c :: rest =>
    if c = sep then [] :: splitOn sep rest
    else match splitOn sep rest with
      | part :: parts => (c :: part) :: parts
      | [] => [[c]]

/-- The parts with a separator between each two. -/
def join (sep : Text) (parts : List Text) : Text :=
  List.intercalate sep parts

/-- Drops the code points of a class from the left end. -/
def trimLeft (p : CodePoint → Bool) (t : Text) : Text :=
  t.dropWhile p

/-- Drops the code points of a class from the right end. -/
def trimRight (p : CodePoint → Bool) (t : Text) : Text :=
  (t.reverse.dropWhile p).reverse

/-- Drops the code points of a class from both ends. -/
def trim (p : CodePoint → Bool) (t : Text) : Text :=
  trimRight p (trimLeft p t)

/-- Fills a text with blanks on the right up to a width. -/
def fillRight (width : Nat) (t : Text) : Text :=
  t ++ List.replicate (width - t.length) (.char ' ')

/-- The number that ASCII digits denote. -/
def digitsValue (t : Text) : Nat :=
  t.foldl (fun n c => 10 * n + c.digitValue) 0

/-- Maps `A` to `Z` to small letters and keeps every other code point. -/
def asciiFold (t : Text) : Text :=
  t.map CodePoint.asciiFold

/-! ## Laws -/

theorem eq_append_of_dropPrefix? {start t rest : Text} (h : dropPrefix? start t = some rest) :
    t = start ++ rest := by
  unfold dropPrefix? at h
  split at h
  · next hp =>
    obtain ⟨tail, rfl⟩ := List.isPrefixOf_iff_prefix.mp hp
    simpa using h
  · contradiction

/-- Cutting loses nothing: the text is the first part, the separator and the second part. -/
theorem cut?_eq_some {sep t before after : Text} (h : cut? sep t = some (before, after)) :
    t = before ++ sep ++ after := by
  induction t generalizing before after with
  | nil =>
    unfold cut? at h
    split at h <;> simp_all
  | cons c rest ih =>
    unfold cut? at h
    split at h
    · next tail htail =>
      obtain ⟨rfl, rfl⟩ := Prod.mk.injEq .. ▸ Option.some.injEq .. ▸ h
      simpa using eq_append_of_dropPrefix? htail
    · obtain ⟨⟨b, a⟩, hcut, hpair⟩ := Option.map_eq_some_iff.mp h
      obtain ⟨rfl, rfl⟩ := Prod.mk.injEq .. ▸ hpair
      simp [ih hcut]

@[simp] theorem length_asciiFold (t : Text) : (asciiFold t).length = t.length :=
  List.length_map ..

end Text

end MailFilter
