import Mathlib
import MailFilter.Variable.Store

/-!
# The history of a store

A store does not keep what was done to it. Its answers are still those of its history since the last
reset: a name has the value that was bound to it last, unless it is the number of a group that was
captured last, and the bindings stand in the order in which names were first bound.

- `Store.Operation`, `Store.run`: what can be done to a store, and the store after a history.
- `Store.sinceReset`: the part of a history that still counts.
- `Store.lastBound?`, `Store.lastCaptured`, `Store.boundNames`: what a history says.
- `Store.numberedGroup?`: the group that a single digit stands for.
- `Store.Reflects`: a store holds what a history says; every operation keeps this.
- `Store.answers_by_history`: look-ups, bindings and captures after any history.
-/

namespace MailFilter

namespace Store

/-! ## Look-ups by small letters -/

/-- The group that a single digit stands for, the first one being `1`. -/
def numberedGroup? (groups : List Text) : Text → Option Text
  | [c] => if c.isDigit && 1 ≤ c.digitValue then groups[c.digitValue - 1]? else none
  | _ => none

/-- Only a single digit stands for a group. -/
theorem numberedGroup?_of_not_digit {groups : List Text} {key : Text}
    (h : ∀ c, key = [c] → c.isDigit = false) : numberedGroup? groups key = none := by
  unfold numberedGroup?
  split
  · next c =>
    rw [h c rfl]
    rfl
  · rfl

/-- A number is one digit or more. -/
theorem isNumber_iff {key : Text} :
    isNumber key = true ↔ key ≠ [] ∧ ∀ c ∈ key, c.isDigit = true := by
  simp [isNumber]

/-- A digit is looked up in the captures, the first of which is `1`. -/
theorem captureOf?_singleton {s : Store} {c : CodePoint} (h : c.isDigit = true) :
    s.captureOf? [c] = numberedGroup? s.captures [c] := by
  have hvalue : Text.digitsValue [c] = c.digitValue := by simp [Text.digitsValue]
  rw [captureOf?, hvalue, numberedGroup?, h]
  cases c.digitValue with
  | zero => rfl
  | succ n => simp

/-- A look-up depends on the small letters of the name, on the captures and on the bindings. -/
theorem lookup?_eq (s : Store) (name : Text) :
    s.lookup? name =
      if 1 < name.lower.length ∧ ∀ c ∈ name.lower, c.isDigit = true then none
      else (numberedGroup? s.captures name.lower).or (s.bindings.get? name.lower) := by
  unfold lookup?
  generalize name.lower = key
  dsimp only
  by_cases hnumber : isNumber key = true
  · obtain ⟨hne, hdigits⟩ := isNumber_iff.mp hnumber
    rw [if_pos hnumber]
    by_cases hlong : 1 < key.length
    · rw [if_pos hlong, if_pos ⟨hlong, hdigits⟩]
    · rw [if_neg hlong, if_neg fun h => hlong h.1]
      -- a number that is not long is a single digit
      obtain ⟨c, rfl⟩ : ∃ c, key = [c] := by
        have hpos := List.length_pos_iff.mpr hne
        exact List.length_eq_one_iff.mp (by omega)
      rw [captureOf?_singleton (hdigits c List.mem_cons_self)]
      cases numberedGroup? s.captures [c] <;> rfl
  · rw [if_neg hnumber]
    have hnot : ¬(1 < key.length ∧ ∀ c ∈ key, c.isDigit = true) := by
      rintro ⟨hlong, hdigits⟩
      refine hnumber (isNumber_iff.mpr ⟨?_, hdigits⟩)
      rintro rfl
      exact absurd hlong (Nat.not_lt_zero 1)
    have hgroup : numberedGroup? s.captures key = none := by
      refine numberedGroup?_of_not_digit fun c hc => Bool.eq_false_iff.mpr fun hdigit => ?_
      refine hnumber (isNumber_iff.mpr ⟨?_, ?_⟩)
      · simp [hc]
      · simpa [hc] using hdigit
    rw [if_neg hnot, hgroup]
    rfl

/-! ## Histories -/

/-- What can be done to a store. -/
inductive Operation where
  | bind (name value : Text)
  | capture (groups : List Text)
  | reset
  deriving DecidableEq

/-- The store after one more operation. -/
def perform (s : Store) : Operation → Store
  | .bind name value => s.bind name value
  | .capture groups => s.capture groups
  | .reset => s.reset

/-- The store after a history that begins with an empty one. -/
def run (history : List Operation) : Store :=
  history.foldl perform empty

/-- The operations behind the last reset. -/
def sinceReset (history : List Operation) : List Operation :=
  (history.reverse.takeWhile (· ≠ .reset)).reverse

/-- The value that an operation binds to a name in small letters. -/
def valueFor? (key : Text) : Operation → Option Text
  | .bind name value => if name.lower = key then some value else none
  | .capture _ | .reset => none

/-- The value that was bound last to a name in small letters. -/
def lastBound? (key : Text) (recent : List Operation) : Option Text :=
  recent.reverse.findSome? (valueFor? key)

/-- The groups that an operation captures. -/
def groupsOf? : Operation → Option (List Text)
  | .capture groups => some groups
  | .bind .. | .reset => none

/-- The groups that were captured last, none at first. -/
def lastCaptured (recent : List Operation) : List Text :=
  (recent.reverse.findSome? groupsOf?).getD []

/-- The name that an operation binds, in small letters. -/
def nameOf? : Operation → Option Text
  | .bind name _ => some name.lower
  | .capture _ | .reset => none

/-- The names that were bound, in small letters, as often as they were. -/
def boundNames (recent : List Operation) : List Text :=
  recent.filterMap nameOf?

/-! ## One more operation -/

/-- Behind a reset nothing counts yet. -/
theorem sinceReset_reset (history : List Operation) : sinceReset (history ++ [.reset]) = [] := by
  simp [sinceReset]

/-- Any other operation adds itself to what counts. -/
theorem sinceReset_append (history : List Operation) (op : Operation) (h : op ≠ .reset) :
    sinceReset (history ++ [op]) = sinceReset history ++ [op] := by
  simp [sinceReset, h]

/-- A name has the value of the last operation if that binds it, and else the one it had. -/
theorem lastBound?_append (key : Text) (recent : List Operation) (op : Operation) :
    lastBound? key (recent ++ [op]) = (valueFor? key op).or (lastBound? key recent) := by
  rw [lastBound?, List.reverse_append]
  show (op :: recent.reverse).findSome? (valueFor? key) = _
  rw [List.findSome?_cons]
  cases valueFor? key op <;> rfl

/-- The last operation replaces the captures if it captures. -/
theorem lastCaptured_append (recent : List Operation) (op : Operation) :
    lastCaptured (recent ++ [op]) = (groupsOf? op).getD (lastCaptured recent) := by
  rw [lastCaptured, List.reverse_append]
  show ((op :: recent.reverse).findSome? groupsOf?).getD [] = _
  rw [List.findSome?_cons]
  cases groupsOf? op <;> rfl

/-- The last operation adds a name if it binds one. -/
theorem boundNames_append (recent : List Operation) (op : Operation) :
    boundNames (recent ++ [op]) = boundNames recent ++ (nameOf? op).toList := by
  rw [boundNames, List.filterMap_append, boundNames]
  cases h : nameOf? op <;> simp [h]

/-- A name that is met again adds nothing. -/
theorem eraseDups_append_of_mem {names : List Text} {name : Text} (h : name ∈ names) :
    (names ++ [name]).eraseDups = names.eraseDups := by
  have hnothing : [name].removeAll names = [] := by simp [List.removeAll, h]
  rw [List.eraseDups_append, hnothing, List.eraseDups_nil, List.append_nil]

/-- A name that is new comes last. -/
theorem eraseDups_append_of_not_mem {names : List Text} {name : Text} (h : name ∉ names) :
    (names ++ [name]).eraseDups = names.eraseDups ++ [name] := by
  have hall : [name].removeAll names = [name] := by simp [List.removeAll, h]
  rw [List.eraseDups_append, hall, List.eraseDups_cons]
  rfl

/-! ## What a store holds -/

/-- A store holds what a history says. -/
structure Reflects (s : Store) (recent : List Operation) : Prop where
  /-- The first nine of the groups that were captured last. -/
  captures : s.captures = (lastCaptured recent).take maxCaptures
  /-- Each name once, in the order in which names were first bound. -/
  keys : s.bindings.keys = (boundNames recent).eraseDups
  /-- The value that was bound last. -/
  value : ∀ key, s.bindings.get? key = lastBound? key recent

/-- An empty store holds what an empty history says. -/
theorem reflects_empty : Reflects empty [] where
  captures := rfl
  keys := rfl
  value _ := rfl

/-- A binding keeps the captures, and adds its name unless it was bound before. -/
theorem Reflects.bind {s : Store} {recent : List Operation} (h : s.Reflects recent)
    (name value : Text) : (s.bind name value).Reflects (recent ++ [.bind name value]) where
  captures := by
    rw [captures_bind, lastCaptured_append]
    exact h.captures
  keys := by
    show Assoc.keys (s.bindings.put name.lower value) = _
    rw [Assoc.keys_put, h.keys, boundNames_append]
    show _ = (boundNames recent ++ [name.lower]).eraseDups
    by_cases hname : name.lower ∈ boundNames recent
    · rw [if_pos (List.mem_eraseDups.mpr hname), eraseDups_append_of_mem hname]
    · rw [if_neg fun hmem => hname (List.mem_eraseDups.mp hmem), eraseDups_append_of_not_mem hname]
  value key := by
    show (s.bindings.put name.lower value).get? key = _
    rw [Assoc.get?_put, lastBound?_append, h.value]
    by_cases hkey : name.lower = key <;> simp [valueFor?, hkey]

/-- A capture keeps the bindings. -/
theorem Reflects.capture {s : Store} {recent : List Operation} (h : s.Reflects recent)
    (groups : List Text) : (s.capture groups).Reflects (recent ++ [.capture groups]) where
  captures := by
    rw [captures_capture, lastCaptured_append]
    rfl
  keys := by
    rw [bindings_capture, h.keys, boundNames_append]
    simp [nameOf?]
  value key := by
    rw [bindings_capture, h.value, lastBound?_append]
    rfl

/-- A store holds what its history says since the last reset. -/
theorem reflects_run (history : List Operation) :
    (run history).Reflects (sinceReset history) := by
  -- on the history from its end, since the last operation decides what counts
  induction history using List.reverseRecOn with
  | nil => exact reflects_empty
  | append_singleton history op ih =>
    have hrun : run (history ++ [op]) = (run history).perform op := by simp [run]
    rw [hrun]
    cases op with
    | bind name value =>
      rw [sinceReset_append history (.bind name value) nofun]
      exact ih.bind name value
    | capture groups =>
      rw [sinceReset_append history (.capture groups) nofun]
      exact ih.capture groups
    | reset =>
      rw [sinceReset_reset]
      exact reflects_empty

/-- After any history a number of several digits has no value, a digit stands for the group of its
number among the first nine that were captured last, and every other name has the value that was
bound to it last. The bindings hold each name once, in the order in which names were first bound. -/
theorem answers_by_history (history : List Operation) (name : Text) :
    let s := run history
    let recent := sinceReset history
    let groups := (lastCaptured recent).take 9
    let key := name.lower
    (s.lookup? name =
      if 1 < key.length ∧ ∀ c ∈ key, c.isDigit = true then none
      else (numberedGroup? groups key).or (lastBound? key recent)) ∧
    s.bindings.keys = (boundNames recent).eraseDups ∧
    (∀ other, s.bindings.get? other = lastBound? other recent) ∧
    s.captures = groups ∧ s.captures.length ≤ 9 := by
  intro s recent groups key
  have h : s.Reflects recent := reflects_run history
  have hcaptures : s.captures = groups := h.captures
  refine ⟨?_, h.keys, h.value, hcaptures, s.few⟩
  rw [lookup?_eq, hcaptures, h.value]

/-- A shorter glob uncovers what was bound to a digit before it. -/
example :
    let history : List Operation :=
      [.bind "2" "bound", .capture ["first", "second"], .bind "12" "hidden", .capture ["first"]]
    (run history).lookup? "2" = some "bound" ∧ (run history).lookup? "12" = none ∧
      (run history).lookup? "1" = some "first" := by
  decide

end Store

end MailFilter
