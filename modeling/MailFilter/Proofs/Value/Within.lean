import MailFilter.Script.Reading

/-!
# What stands in a value

Scripts are read by going from a value to the values in it: to the items of a list, to the entries
of a mapping, and to the body behind a keyword. On this way values get smaller, and what is known of
the whole is known of its parts.

- `Value.isTree`: null, truth values, numbers and texts, and the lists and mappings of these.
- `Value.Hereditary`: a property that passes from a collection to what stands in it.
- `Value.Within`: a value stands in another.
- `Value.Within.sizeOf_lt`, `Value.Hereditary.within`: it is smaller, and has its properties.
-/

namespace MailFilter

namespace Value

mutual

/-- Null, truth values, numbers and texts, and the lists and mappings of such values. -/
def isTree : Value → Bool
  | .null | .bool _ | .int _ | .float _ | .text _ => true
  | .list items => areTrees items
  | .map entries => entriesTrees entries
  | .octets _ | .day _ | .moment _ | .pair _ _ | .set _ | .cycle _ => false

/-- Whether the items of a list are trees. -/
def areTrees : List Value → Bool
  | [] => true
  | v :: rest => v.isTree && areTrees rest

/-- Whether the entries of a mapping are trees. -/
def entriesTrees : List (Value × Value) → Bool
  | [] => true
  | (k, v) :: rest => k.isTree && v.isTree && entriesTrees rest

end

/-- A property that what stands in a collection takes over from the collection. -/
structure Hereditary (P : Value → Prop) : Prop where
  null : P .null
  item : ∀ {items}, P (.list items) → ∀ v ∈ items, P v
  pair : ∀ {first second}, P (.pair first second) → P first ∧ P second
  entry : ∀ {entries}, P (.map entries) → ∀ entry ∈ entries, P entry.1 ∧ P entry.2

/-- The items of a list of trees are trees. -/
theorem isTree_of_mem : ∀ {items : List Value}, areTrees items = true → ∀ v ∈ items, v.isTree = true
  | [], _ => nofun
  | v :: rest, h => by
    rw [areTrees, Bool.and_eq_true] at h
    exact List.forall_mem_cons.mpr ⟨h.1, isTree_of_mem h.2⟩

/-- The keys and values in a mapping that is a tree are trees. -/
theorem isTree_of_mem_entries : ∀ {entries : List (Value × Value)}, entriesTrees entries = true →
    ∀ entry ∈ entries, entry.1.isTree = true ∧ entry.2.isTree = true
  | [], _ => nofun
  | (k, v) :: rest, h => by
    rw [entriesTrees, Bool.and_eq_true, Bool.and_eq_true] at h
    exact List.forall_mem_cons.mpr ⟨h.1, isTree_of_mem_entries h.2⟩

/-- What stands in a tree is a tree. -/
theorem hereditary_isTree : Hereditary (isTree · = true) where
  null := rfl
  item h := isTree_of_mem (by rwa [isTree] at h)
  pair h := by rw [isTree] at h; cases h
  entry h := isTree_of_mem_entries (by rwa [isTree] at h)

/-- The items of a list that can be shown can be shown. -/
theorem isShowable_of_mem :
    ∀ {items : List Value}, areShowable items = true → ∀ v ∈ items, v.isShowable = true
  | [], _ => nofun
  | v :: rest, h => by
    rw [areShowable, Bool.and_eq_true] at h
    exact List.forall_mem_cons.mpr ⟨h.1, isShowable_of_mem h.2⟩

/-- The keys and values in a mapping that can be shown can be shown. -/
theorem isShowable_of_mem_entries : ∀ {entries : List (Value × Value)},
    entriesShowable entries = true →
      ∀ entry ∈ entries, entry.1.isShowable = true ∧ entry.2.isShowable = true
  | [], _ => nofun
  | (k, v) :: rest, h => by
    rw [entriesShowable, Bool.and_eq_true, Bool.and_eq_true] at h
    exact List.forall_mem_cons.mpr ⟨h.1, isShowable_of_mem_entries h.2⟩

/-- What stands in a value that can be shown can be shown. -/
theorem hereditary_isShowable : Hereditary (isShowable · = true) where
  null := rfl
  item h := isShowable_of_mem (by rwa [isShowable] at h)
  pair h := by rwa [isShowable, Bool.and_eq_true] at h
  entry h := isShowable_of_mem_entries (by rwa [isShowable] at h)

/-- What is found under a text is the value of an entry. -/
theorem mem_of_lookupText? {name : Text} {w : Value} : ∀ {entries : List (Value × Value)},
    lookupText? name entries = some w → ∃ k, (k, w) ∈ entries
  | [], h => nomatch h
  | (k, v) :: rest, h => by
    unfold lookupText? at h
    split at h
    · cases h
      exact ⟨k, List.mem_cons_self⟩
    · obtain ⟨key, hmem⟩ := mem_of_lookupText? h
      exact ⟨key, List.mem_cons_of_mem _ hmem⟩

namespace Hereditary

variable {P : Value → Prop}

/-- A property passes to what is found under a name. -/
theorem field (hP : Hereditary P) {v w : Value} {name : Text} (h : v.field? name = some w)
    (hv : P v) : P w := by
  unfold field? at h
  split at h
  · obtain ⟨k, hmem⟩ := mem_of_lookupText? h
    exact (hP.entry hv _ hmem).2
  · cases h

/-- Where nothing is found under a name, the default has to have the property. -/
theorem fieldD (hP : Hereditary P) {v default : Value} {name : Text} (hdefault : P default)
    (hv : P v) : P ((v.field? name).getD default) := by
  cases h : v.field? name with
  | none => exact hdefault
  | some w => exact hP.field h hv

/-- A property passes to the body behind a keyword, which is null where there is none. -/
theorem body (hP : Hereditary P) {v body : Value} {what keyword : Text}
    (h : v.keywordAndBody what = .ok (keyword, body)) (hv : P v) : P body := by
  unfold keywordAndBody at h
  split at h
  · cases h
    exact hP.null
  · next k b =>
    cases hk : k.asPlain with
    | error e =>
      rw [hk] at h
      cases h
    | ok t =>
      rw [hk] at h
      cases h
      exact (hP.entry hv _ (List.mem_singleton_self _)).2
  · cases h
  · cases h

end Hereditary

/-- A value stands in another, or is its body. -/
inductive Within : Value → Value → Prop
  | item {items : List Value} {v : Value} : v ∈ items → Within v (.list items)
  | first {first second : Value} : Within first (.pair first second)
  | second {first second : Value} : Within second (.pair first second)
  | field {v w : Value} {name : Text} : v.field? name = some w → Within w v
  | body {v w : Value} {what keyword : Text} : v.keywordAndBody what = .ok (keyword, w) → Within w v
  | trans {u v w : Value} : Within u v → Within v w → Within u w

/-- What stands in a value is smaller than the value. -/
theorem Within.sizeOf_lt {v w : Value} (h : Within v w) : sizeOf v < sizeOf w := by
  induction h with
  | item hmem =>
    have := List.sizeOf_lt_of_mem hmem
    simp only [Value.list.sizeOf_spec]
    omega
  | first | second =>
    simp only [Value.pair.sizeOf_spec]
    omega
  | field hfield => exact sizeOf_field?_lt hfield
  | body hbody => exact sizeOf_keywordAndBody_lt hbody
  | trans _ _ ih ih' => exact Nat.lt_trans ih ih'

/-- A property passes to everything inside a value, by induction on the way to it. -/
theorem Hereditary.within {P : Value → Prop} (hP : Hereditary P) {v w : Value} (h : Within v w) :
    P w → P v := by
  induction h with
  | item hmem => exact fun hw => hP.item hw _ hmem
  | first => exact fun hw => (hP.pair hw).1
  | second => exact fun hw => (hP.pair hw).2
  | field hfield => exact hP.field hfield
  | body hbody => exact hP.body hbody
  | trans _ _ ih ih' => exact fun hw => ih (ih' hw)

end Value

end MailFilter
