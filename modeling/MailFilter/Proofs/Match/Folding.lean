import Mathlib
import MailFilter.Proofs.Match.Quoting
import MailFilter.Proofs.Text.AsciiFold

/-!
# Comparing folded texts

To the comparator that folds ASCII letters, a value and a key are what their folded texts are to the
comparator that knows no letters. The groups of a glob are taken from the value as it is written, at
the places where the groups of the folded value stand.

- `Text.beginsBy_map`, `Text.occursBy_map`, `Glob.groups?_map`: searches among texts of which every
  code point is mapped.
- `Glob.ofText_map`: a glob of which the letters are mapped is read as before.
- `Glob.places`, `Text.at`: the places of the groups of a split, and what stands there.
- `Glob.Splits.eq_places`: a split is what stands at its places.
- `Comparison.groups_asciiCasemap`: the law of the two comparators.
-/

namespace MailFilter

/-! ## Mapped texts -/

section Map

variable {f : CodePoint → CodePoint} {same before : CodePoint → CodePoint → Bool}

namespace Text

theorem beginsBy_map (h : ∀ k c, same (f k) (f c) = before k c) (start t : Text) :
    beginsBy same (start.map f) (t.map f) = beginsBy before start t := by
  induction start generalizing t with
  | nil => rfl
  | cons k start ih =>
    cases t with
    | nil => rfl
    | cons c t =>
      rw [List.map_cons, List.map_cons, beginsBy, beginsBy, h, ih]

theorem occursBy_map (h : ∀ k c, same (f k) (f c) = before k c) (part t : Text) :
    occursBy same (part.map f) (t.map f) = occursBy before part t := by
  induction t with
  | nil => exact List.isEmpty_map
  | cons c t ih =>
    have hbegins := beginsBy_map h part (c :: t)
    rw [List.map_cons] at hbegins
    rw [List.map_cons, occursBy, occursBy, hbegins, ih]

end Text

namespace GlobItem

/-- An item of which the code point is mapped, if it names one. -/
def map (f : CodePoint → CodePoint) : GlobItem → GlobItem
  | .literal c => .literal (f c)
  | .any => .any
  | .run => .run

end GlobItem

namespace Glob

/-- What is no letter means the same after a map that touches letters only. -/
theorem ofText_map (hkeep : ∀ c mark : CodePoint, mark.isLetter = false → (f c = mark ↔ c = mark))
    (t : Text) : ofText (t.map f) = (ofText t).map (GlobItem.map f) := by
  have hmark (mark : CodePoint) (h : mark.isLetter = false) : f mark = mark :=
    (hkeep mark mark h).mpr rfl
  fun_induction ofText t with
  | case1 => rfl
  | case2 c rest ih =>
    rw [List.map_cons, List.map_cons, hmark _ rfl, ofText_escaped, ih]
    rfl
  | case3 rest ih =>
    rw [List.map_cons, hmark _ rfl, ofText_star, ih]
    rfl
  | case4 rest ih =>
    rw [List.map_cons, hmark _ rfl, ofText_question, ih]
    rfl
  | case5 c rest hback hrun hany ih =>
    rw [List.map_cons, ofText, ih]
    · rfl
    · -- the map makes no backslash, so none was there before it
      intro d tail hslash htail
      obtain ⟨e, others, rfl, -, -⟩ := List.map_eq_cons_iff.mp htail
      exact hback e others ((hkeep c _ rfl).mp hslash) rfl
    · exact fun h => hrun ((hkeep c _ rfl).mp h)
    · exact fun h => hany ((hkeep c _ rfl).mp h)

theorem growFirst_map (c : CodePoint) (groups : List Text) :
    growFirst (f c) (groups.map (List.map f)) = (growFirst c groups).map (List.map f) := by
  cases groups <;> rfl

/-- The search takes the same way through a mapped value with a mapped glob. -/
theorem groups?_map (h : ∀ k c, same (f k) (f c) = before k c) (glob : Glob) (value : Text) :
    groups? same (glob.map (GlobItem.map f)) (value.map f) =
      (groups? before glob value).map (List.map (List.map f)) := by
  -- at a run the answer depends on whether the longer run is found, which the map does not change
  fun_induction groups? before glob value with
  | case1 => rw [List.map_nil, List.map_nil, groups?]; rfl
  | case2 c rest => rw [List.map_nil, List.map_cons, groups?]; rfl
  | case3 k items => rw [List.map_cons, GlobItem.map, List.map_nil, groups?]; rfl
  | case4 items k c rest hsame ih =>
    rw [List.map_cons, GlobItem.map, List.map_cons, groups?, h, if_pos hsame, ih]
  | case5 items k c rest hdiffer =>
    rw [List.map_cons, GlobItem.map, List.map_cons, groups?, h, if_neg hdiffer]
    rfl
  | case6 items => rw [List.map_cons, GlobItem.map, List.map_nil, groups?]; rfl
  | case7 items c rest ih =>
    rw [List.map_cons, GlobItem.map, List.map_cons, groups?, ih, Option.map_map, Option.map_map]
    rfl
  | case8 items ih =>
    rw [List.map_nil] at ih
    rw [List.map_cons, GlobItem.map, List.map_nil, groups?, ih, Option.map_map, Option.map_map]
    rfl
  | case9 items c rest found hfound ih =>
    rw [hfound, List.map_cons, GlobItem.map] at ih
    rw [List.map_cons, GlobItem.map, List.map_cons, groups?, ih, Option.map_some, Option.map_some,
      ← growFirst_map]
  | case10 items c rest hnone ihLong ihShort =>
    rw [hnone, List.map_cons, GlobItem.map] at ihLong
    rw [List.map_cons] at ihShort
    rw [List.map_cons, GlobItem.map, List.map_cons, groups?, ihLong, Option.map_none, ihShort,
      Option.map_map, Option.map_map]
    rfl

end Glob

end Map

/-! ## Places -/

/-- What stands in a text at a place: from a position on, so many code points. -/
def Text.at (t : Text) (place : Nat × Nat) : Text :=
  (t.drop place.1).take place.2

namespace Glob

/-- The places of the groups of a split in a value that begins at a position. A literal takes one
code point, and a wildcard as many as its group has. -/
def places : Glob → List Text → Nat → List (Nat × Nat)
  | .literal _ :: items, groups, position => places items groups (position + 1)
  | .any :: items, group :: groups, position | .run :: items, group :: groups, position =>
    (position, group.length) :: places items groups (position + group.length)
  | [], _, _ | _ :: _, [], _ => []

variable {f : CodePoint → CodePoint} {same : CodePoint → CodePoint → Bool}

theorem places_nil (glob : Glob) (position : Nat) : places glob [] position = [] := by
  induction glob generalizing position with
  | nil => rfl
  | cons item items ih =>
    cases item with
    | literal k => exact ih (position + 1)
    | any | run => rfl

/-- Places depend on the wildcards and on lengths only. -/
theorem places_map (glob : Glob) (groups : List Text) (position : Nat) :
    places (glob.map (GlobItem.map f)) (groups.map (List.map f)) position =
      places glob groups position := by
  fun_induction places glob groups position with
  | case1 k items groups position ih => exact ih
  | case2 items group groups position ih | case3 items group groups position ih =>
    show (position, (group.map f).length) :: places _ _ (position + (group.map f).length) = _
    rw [List.length_map, ih]
  | case4 groups position => rfl
  | case5 item items position hitem => exact places_nil _ position

/-- A split is what stands at its places. -/
theorem Splits.eq_places {glob : Glob} {groups : List Text} {value : Text}
    (h : Splits same glob groups value) (front : Text) :
    (places glob groups front.length).map (front ++ value).at = groups := by
  -- what an item takes goes over to the front, so the rest of the places count from behind it
  induction h generalizing front with
  | nil => rfl
  | @literal k c items groups value hsame hrest ih =>
    have hshift := ih (front ++ [c])
    rw [List.length_append, List.append_assoc] at hshift
    exact hshift
  | @any c items groups value hrest ih =>
    have hshift := ih (front ++ [c])
    rw [List.length_append, List.append_assoc] at hshift
    show Text.at _ _ :: _ = _
    rw [Text.at, List.drop_left]
    exact congrArg ([c] :: ·) hshift
  | @run group items groups value hrest ih =>
    have hshift := ih (front ++ group)
    rw [List.length_append, List.append_assoc] at hshift
    show Text.at _ _ :: _ = _
    rw [Text.at, List.drop_left, List.take_left]
    exact congrArg (group :: ·) hshift

end Glob

namespace Comparison

variable {f : CodePoint → CodePoint} {same before : CodePoint → CodePoint → Bool}

theorem textGroups_map (h : ∀ k c, same (f k) (f c) = before k c)
    (hkeep : ∀ c mark : CodePoint, mark.isLetter = false → (f c = mark ↔ c = mark))
    (matchType : MatchType) (value key : Text) :
    textGroups matchType same (value.map f) (key.map f) =
      (textGroups matchType before value key).map (List.map (List.map f)) := by
  have hnoGroups (condition : Bool) :
      noGroupsIf condition = (noGroupsIf condition).map (List.map (List.map f)) := by
    cases condition <;> rfl
  cases matchType with
  | whole =>
    rw [textGroups, textGroups, List.length_map, List.length_map, Text.beginsBy_map h]
    exact hnoGroups _
  | part =>
    rw [textGroups, textGroups, Text.occursBy_map h]
    exact hnoGroups _
  | glob =>
    rw [textGroups, textGroups, Glob.ofText_map hkeep]
    exact Glob.groups?_map h _ _

/-- The groups of a match are what stands at their places. Where there are no groups there are no
places. -/
theorem eq_places_of_textGroups {matchType : MatchType} {value key : Text} {split : List Text}
    (h : textGroups matchType same value key = some split) :
    (Glob.places (Glob.ofText key) split 0).map value.at = split := by
  have hnoGroups (condition : Bool) (h : noGroupsIf condition = some split) :
      (Glob.places (Glob.ofText key) split 0).map value.at = split := by
    cases condition with
    | false => cases h
    | true =>
      cases h
      rw [Glob.places_nil]
      rfl
  cases matchType with
  | whole => exact hnoGroups _ h
  | part => exact hnoGroups _ h
  | glob => exact (Glob.splits_of_groups? h).eq_places []

/-- Folding capitals makes the comparator that folds them one that does not. A value matches a key if
and only if the folded value matches the folded key code point by code point, and then the groups are
what stands in the value, in its own letter cases, at the places of the groups of the folded value. -/
theorem groups_asciiCasemap {fold : CodePoint → CodePoint} (hfold : CodePoint.FoldsCapitals fold)
    (matchType : MatchType) (value key : Text) :
    ∃ found folded, groups matchType .asciiCasemap value key = .ok found ∧
      groups matchType .octet (value.map fold) (key.map fold) = .ok folded ∧
      (found = none ↔ folded = none) ∧
      ∀ split, folded = some split →
        let places := Glob.places (Glob.ofText (key.map fold)) split 0
        split = places.map (Text.at (value.map fold)) ∧ found = some (places.map (Text.at value)) := by
  obtain rfl := CodePoint.foldsCapitals_iff.mp hfold
  have hsame (k c : CodePoint) :
      Comparator.octet.same k.asciiFold c.asciiFold = Comparator.asciiCasemap.same k c := rfl
  have hmap := textGroups_map hsame (fun _ _ => CodePoint.asciiFold_eq_iff) matchType value key
  refine ⟨_, _, groups_of_texts (.inl rfl) matchType value key, groups_of_texts (.inr rfl) matchType
    (value.map CodePoint.asciiFold) (key.map CodePoint.asciiFold), ?_, fun split hsplit => ?_⟩
  · rw [hmap, Option.map_eq_none_iff]
  · refine ⟨(eq_places_of_textGroups hsplit).symm, ?_⟩
    rw [hmap] at hsplit
    -- the folded groups are the groups folded, and both have the same places
    obtain ⟨groups, hgroups, rfl⟩ := Option.map_eq_some_iff.mp hsplit
    rw [hgroups, Glob.ofText_map (fun _ _ => CodePoint.asciiFold_eq_iff), Glob.places_map,
      eq_places_of_textGroups hgroups]

/-- Letters of either size match each other and keep their size in the groups. The sign for kelvin is
no letter, and does not match the one that it looks like. -/
theorem groups_asciiCasemap_kelvin :
    CodePoint.FoldsCapitals CodePoint.asciiFold ∧
      groups .glob .asciiCasemap "Xa\u212aBy" "x?\u212a*" = .ok (some ["a", "By"]) ∧
      groups .glob .octet "xa\u212aby" "x?\u212a*" = .ok (some ["a", "by"]) ∧
      Glob.places (Glob.ofText "x?\u212a*") ["a", "by"] 0 = [(1, 1), (3, 2)] ∧
      groups .glob .asciiCasemap "Xa\u212aBy" "x?k*" = .ok none := by
  have hfold := CodePoint.foldsCapitals_asciiFold
  obtain ⟨found, folded, hfound, hfolded, -, hplaces⟩ :=
    groups_asciiCasemap hfold .glob "Xa\u212aBy" "x?\u212a*"
  have hoctet : groups .glob .octet "xa\u212aby" "x?\u212a*" = .ok (some ["a", "by"]) := by cbv
  obtain rfl := Except.ok.inj (hfolded.symm.trans hoctet)
  obtain ⟨-, rfl⟩ := hplaces _ rfl
  exact ⟨hfold, hfound, hoctet, by cbv, by cbv⟩

end Comparison

end MailFilter
