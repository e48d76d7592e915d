/-!
# Ordered associations

A finite table as the list of its entries, in the order in which their keys were first entered.

- `Assoc.get?`: the value under a key.
- `Assoc.put`: enters a value; a key that is present keeps its place.
- `Assoc.get?_put`: what was entered is found, and nothing else changes.
- `Assoc.keys_put`: a key is added at the end unless it is present.
-/

namespace MailFilter

/-- A table as the list of its entries. -/
abbrev Assoc (κ α : Type) := List (κ × α)

namespace Assoc

variable {κ α : Type} [DecidableEq κ]

/-- The value under a key. -/
def get? (key : κ) : Assoc κ α → Option α
  | [] => none
  | (k, v) :: rest => if k = key then some v else get? key rest

/-- Enters a value under a key. -/
def put (key : κ) (value : α) : Assoc κ α → Assoc κ α
  | [] => [(key, value)]
  | (k, v) :: rest => if k = key then (k, value) :: rest else (k, v) :: put key value rest

/-- Enters every entry of a second table, in order. -/
def update (table new : Assoc κ α) : Assoc κ α :=
  new.foldl (fun t (k, v) => put k v t) table

/-- The keys in the order of their first entry. -/
def keys (table : Assoc κ α) : List κ :=
  table.map Prod.fst

@[simp] theorem get?_nil (key : κ) : get? key ([] : Assoc κ α) = none := rfl

theorem get?_put (key other : κ) (value : α) (table : Assoc κ α) :
    get? other (put key value table) = if key = other then some value else get? other table := by
  induction table with
  | nil => simp [put, get?]
  | cons entry rest ih =>
    obtain ⟨k, v⟩ := entry
    by_cases hk : k = key
    · subst hk
      by_cases ho : k = other <;> simp [put, get?, ho]
    · by_cases ho : k = other
      · subst ho
        simp [put, get?, hk, Ne.symm hk]
      · simp [put, get?, hk, ho, ih]

/-- What has a value under it is a key. -/
theorem mem_keys_of_isSome {key : κ} {table : Assoc κ α} (h : (get? key table).isSome = true) :
    key ∈ keys table := by
  induction table with
  | nil => cases h
  | cons entry rest ih =>
    obtain ⟨k, v⟩ := entry
    by_cases hk : k = key
    · exact List.mem_cons.mpr (.inl hk.symm)
    · rw [get?, if_neg hk] at h
      exact List.mem_cons.mpr (.inr (ih h))

omit [DecidableEq κ] in
@[simp] theorem keys_nil : keys ([] : Assoc κ α) = [] := rfl

theorem keys_put (key : κ) (value : α) (table : Assoc κ α) :
    keys (put key value table) = if key ∈ keys table then keys table else keys table ++ [key] := by
  induction table with
  | nil => simp [put, keys]
  | cons entry rest ih =>
    obtain ⟨k, v⟩ := entry
    by_cases hk : k = key
    · simp [put, keys, hk]
    · by_cases hm : key ∈ keys rest <;>
        simp_all [put, keys, Ne.symm hk]

/-- No key is entered twice. -/
theorem nodup_keys_put (key : κ) (value : α) (table : Assoc κ α) (h : (keys table).Nodup) :
    (keys (put key value table)).Nodup := by
  rw [keys_put]
  split
  · exact h
  · next absent =>
    rw [List.nodup_append]
    exact ⟨h, by simp, by grind⟩

end Assoc

end MailFilter
