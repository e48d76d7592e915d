import MailFilter.Match.Kind

/-!
# Globs

In a glob `*` stands for any run of code points and `?` for any one of them; a backslash makes the
next code point stand for itself. Where a value can be split between the wildcards in several ways,
the leftmost wildcard takes as much as it can.

- `GlobItem`, `Glob.ofText`: the items of a glob.
- `Glob.ofText_escaped`, `Glob.ofText_star`, `Glob.ofText_question`, `Glob.ofText_plain`: the rules
  by which they are read, with `Glob.ofText_lone_backslash` for a backslash that is left over.
- `Glob.groups?`: the runs that the wildcards stand for in a value.
- `Glob.pattern`: the glob in the notation of regular expressions.
- `Glob.length_groups?`: there is one group for each wildcard.
-/

namespace MailFilter

/-- An item of a glob. -/
inductive GlobItem where
  | literal (c : CodePoint)
  | any
  | run
  deriving DecidableEq, Repr

/-- A glob as the list of its items. -/
abbrev Glob := List GlobItem

namespace GlobItem

/-- Whether an item stands for code points that it does not name. -/
def isWildcard : GlobItem → Bool
  | .literal _ => false
  | .any | .run => true

end GlobItem

namespace Glob

/-- Reads a glob. A backslash at the end stands for itself. -/
def ofText : Text → Glob
  | [] => []
  | .char '\\' :: c :: rest => .literal c :: ofText rest
  | .char '*' :: rest => .run :: ofText rest
  | .char '?' :: rest => .any :: ofText rest
  | c :: rest => .literal c :: ofText rest

/-! ## Rules of reading

One rule for each way to begin, of which exactly one applies to a text that is not empty. -/

@[simp] theorem ofText_nil : ofText [] = [] := by
  rw [ofText]

/-- A backslash makes the next code point stand for itself, be it a wildcard or a backslash. -/
@[simp] theorem ofText_escaped (c : CodePoint) (rest : Text) :
    ofText (.char '\\' :: c :: rest) = .literal c :: ofText rest := by
  rw [ofText]

/-- With nothing behind it a backslash stands for itself. -/
@[simp] theorem ofText_lone_backslash :
    ofText [.char '\\'] = [.literal (.char '\\')] := rfl

@[simp] theorem ofText_star (rest : Text) : ofText (.char '*' :: rest) = .run :: ofText rest := by
  rw [ofText]

@[simp] theorem ofText_question (rest : Text) :
    ofText (.char '?' :: rest) = .any :: ofText rest := by
  rw [ofText]

/-- Neither backslash nor wildcard, a code point stands for itself. -/
theorem ofText_plain {c : CodePoint} (hback : c ≠ .char '\\') (hstar : c ≠ .char '*')
    (hquestion : c ≠ .char '?') (rest : Text) : ofText (c :: rest) = .literal c :: ofText rest := by
  rw [ofText]
  · exact fun _ _ hc _ => hback hc
  · exact hstar
  · exact hquestion

/-- No list of items is out of reach: some text is read as it. -/
theorem exists_ofText_eq (glob : Glob) : ∃ t, ofText t = glob := by
  induction glob with
  | nil => exact ⟨[], ofText_nil⟩
  | cons item glob ih =>
    obtain ⟨t, rfl⟩ := ih
    cases item with
    | literal c => exact ⟨.char '\\' :: c :: t, ofText_escaped c t⟩
    | any => exact ⟨.char '?' :: t, ofText_question t⟩
    | run => exact ⟨.char '*' :: t, ofText_star t⟩

/-! ## Groups -/

/-- Adds a code point to the first group. -/
def growFirst (c : CodePoint) : List Text → List Text
  | [] => []
  | group :: groups => (c :: group) :: groups

/-- The groups of the first split of a value in which leftmost wildcards are longest, code points
being compared by `same`. -/
def groups? (same : CodePoint → CodePoint → Bool) : Glob → Text → Option (List Text)
  | [], [] => some []
  | [], _ :: _ => none
  | .literal _ :: _, [] => none
  | .literal k :: items, c :: rest => if same k c then groups? same items rest else none
  | .any :: _, [] => none
  | .any :: items, c :: rest => (groups? same items rest).map ([c] :: ·)
  | .run :: items, [] => (groups? same items []).map ([] :: ·)
  | .run :: items, c :: rest =>
    match groups? same (.run :: items) rest with
    | some groups => some (growFirst c groups)
    | none => (groups? same items (c :: rest)).map ([] :: ·)
termination_by items value => (items.length, value.length)

@[simp] theorem length_growFirst (c : CodePoint) (groups : List Text) :
    (growFirst c groups).length = groups.length := by
  cases groups <;> rfl

/-- There is one group for each wildcard. -/
theorem length_groups? {same : CodePoint → CodePoint → Bool} {glob : Glob} {value : Text}
    {groups : List Text} (h : groups? same glob value = some groups) :
    groups.length = glob.countP GlobItem.isWildcard := by
  fun_induction groups? same glob value generalizing groups with
  | case1 => simp_all
  | case2 | case3 | case5 | case6 => simp_all
  | case4 items k c rest _ ih => simp [GlobItem.isWildcard, ih h]
  | case7 items c rest ih =>
    obtain ⟨gs, hgs, rfl⟩ := Option.map_eq_some_iff.mp h
    simp [List.countP_cons, GlobItem.isWildcard, ih hgs]
  | case8 items ih =>
    obtain ⟨gs, hgs, rfl⟩ := Option.map_eq_some_iff.mp h
    simp [List.countP_cons, GlobItem.isWildcard, ih hgs]
  | case9 items c rest gs hgs ih =>
    obtain rfl := Option.some.injEq .. ▸ h
    simp [ih hgs]
  | case10 items c rest _ _ ih =>
    obtain ⟨gs, hgs, rfl⟩ := Option.map_eq_some_iff.mp h
    simp [List.countP_cons, GlobItem.isWildcard, ih hgs]

/-- Code points that mean something else than themselves in a regular expression, or are blank. -/
def regexSpecial : Text :=
  "()[]\x7b\x7d?*+-|^$\\.&~# \t\n\r\x0b\x0c"

/-- A code point that stands for itself in a regular expression. -/
def escapeRegex (c : CodePoint) : Text :=
  if regexSpecial.contains c then [.char '\\', c] else [c]

/-- An item as a regular expression. -/
def itemPattern : GlobItem → Text
  | .literal c => escapeRegex c
  | .any => "(.)"
  | .run => "(.*)"

/-- The glob in the notation of regular expressions. -/
def pattern (glob : Glob) : Text :=
  glob.flatMap itemPattern

end Glob

end MailFilter
