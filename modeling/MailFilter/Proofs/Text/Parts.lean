import Mathlib
import MailFilter.Text.Basic

/-!
# Parts of texts

A text is split at a separator into parts that do not hold it, and parts that do not hold it are found
again in the text that joins them. A list is split where a property ends.

- `Text.takeWhile_dropWhile_append`: where a property ends.
- `Text.not_mem_of_mem_splitOn`, `Text.subset_of_mem_splitOn`: what parts hold.
- `Text.splitOn_join`: joined parts are found again.
- `Text.eq_of_join_eq`: a text tells the parts that it was joined from.
-/

namespace MailFilter

namespace Text

/-- What has a property is taken up to the first that has not. -/
theorem takeWhile_dropWhile_append {α : Type} {front : List α} (p : α → Bool) (rest : List α)
    (hfront : ∀ a ∈ front, p a = true) (hrest : ∀ a ∈ rest.head?, p a = false) :
    (front ++ rest).takeWhile p = front ∧ (front ++ rest).dropWhile p = rest := by
  rw [List.takeWhile_append_of_pos hfront, List.dropWhile_append_of_pos hfront]
  cases rest with
  | nil => simp
  | cons a rest => simp [hrest a rfl]

variable {sep : CodePoint}

theorem splitOn_of_not_mem {t : Text} (h : sep ∉ t) : splitOn sep t = [t] := by
  induction t with
  | nil => rfl
  | cons c rest ih =>
    obtain ⟨hc, hrest⟩ := List.ne_and_not_mem_of_not_mem_cons h
    rw [splitOn, if_neg (Ne.symm hc), ih hrest]

/-- What is in front of a separator is a part. -/
theorem splitOn_append_cons {part : Text} (h : sep ∉ part) (rest : Text) :
    splitOn sep (part ++ sep :: rest) = part :: splitOn sep rest := by
  induction part with
  | nil => exact if_pos rfl
  | cons c part ih =>
    obtain ⟨hc, hpart⟩ := List.ne_and_not_mem_of_not_mem_cons h
    rw [List.cons_append, splitOn, if_neg (Ne.symm hc), ih hpart]

theorem not_mem_of_mem_splitOn {t : Text} : ∀ part ∈ splitOn sep t, sep ∉ part := by
  induction t with
  | nil =>
    intro part hpart
    rw [List.mem_singleton.mp hpart]
    exact List.not_mem_nil
  | cons c rest ih =>
    unfold splitOn
    split
    · exact List.forall_mem_cons.mpr ⟨List.not_mem_nil, ih⟩
    · next hc =>
      split
      · next part parts hsplit =>
        rw [hsplit] at ih
        obtain ⟨hfirst, hrest⟩ := List.forall_mem_cons.mp ih
        have hfirst : sep ∉ c :: part := List.not_mem_cons_of_ne_of_not_mem (Ne.symm hc) hfirst
        exact List.forall_mem_cons.mpr ⟨hfirst, hrest⟩
      · intro part hpart
        rw [List.mem_singleton.mp hpart]
        exact List.not_mem_cons_of_ne_of_not_mem (Ne.symm hc) List.not_mem_nil

theorem subset_of_mem_splitOn : ∀ {t part : Text}, part ∈ splitOn sep t → part ⊆ t := by
  intro t
  induction t with
  | nil =>
    intro part hpart
    rw [List.mem_singleton.mp hpart]
    exact List.Subset.refl _
  | cons c rest ih =>
    intro part hpart
    unfold splitOn at hpart
    split at hpart
    · rcases List.mem_cons.mp hpart with rfl | hrest
      · exact List.nil_subset _
      · exact List.subset_cons_of_subset c (ih hrest)
    · split at hpart
      · next first parts hsplit =>
        rcases List.mem_cons.mp hpart with rfl | hrest
        · exact List.cons_subset_cons c (ih (hsplit ▸ List.mem_cons_self))
        · exact List.subset_cons_of_subset c (ih (hsplit ▸ List.mem_cons_of_mem _ hrest))
      · rw [List.mem_singleton.mp hpart]
        exact List.cons_subset_cons c (List.nil_subset _)

/-- Parts without the separator are found again. -/
theorem splitOn_join {part : Text} {parts : List Text} (h : ∀ t ∈ part :: parts, sep ∉ t) :
    splitOn sep (join [sep] (part :: parts)) = part :: parts := by
  induction parts generalizing part with
  | nil =>
    have hpart : join [sep] [part] = part := by simp [join]
    rw [hpart]
    exact splitOn_of_not_mem (h part List.mem_cons_self)
  | cons next parts ih =>
    obtain ⟨hpart, hparts⟩ := List.forall_mem_cons.mp h
    have hjoin : join [sep] (part :: next :: parts) = part ++ sep :: join [sep] (next :: parts) := by
      simp [join, List.intercalate]
    rw [hjoin, splitOn_append_cons hpart, ih hparts]

/-! ## Separators of several code points -/

theorem join_append_cons (sep start part : Text) (parts : List Text) :
    join sep ((start ++ part) :: parts) = start ++ join sep (part :: parts) := by
  cases parts with
  | nil => simp [join]
  | cons next parts => simp [join, List.intercalate_cons_cons]

/-- What stands in a separator behind its first code point may as well belong to the next part. -/
theorem join_cons_eq (gap part : Text) (parts : List Text) :
    join (sep :: gap) (part :: parts) = join [sep] (part :: parts.map (gap ++ ·)) := by
  induction parts generalizing part with
  | nil => simp [join]
  | cons next parts ih =>
    calc join (sep :: gap) (part :: next :: parts)
        = part ++ (sep :: gap) ++ join (sep :: gap) (next :: parts) := List.intercalate_cons_cons
      _ = part ++ [sep] ++ (gap ++ join [sep] (next :: parts.map (gap ++ ·))) := by
        rw [ih, List.append_assoc, List.append_assoc]
        rfl
      _ = part ++ [sep] ++ join [sep] ((gap ++ next) :: parts.map (gap ++ ·)) := by
        rw [join_append_cons]
      _ = join [sep] (part :: (next :: parts).map (gap ++ ·)) := List.intercalate_cons_cons.symm

theorem splitOn_join_cons {gap part : Text} {parts : List Text} (hgap : sep ∉ gap)
    (h : ∀ t ∈ part :: parts, sep ∉ t) :
    splitOn sep (join (sep :: gap) (part :: parts)) = part :: parts.map (gap ++ ·) := by
  obtain ⟨hpart, hparts⟩ := List.forall_mem_cons.mp h
  rw [join_cons_eq]
  refine splitOn_join (List.forall_mem_cons.mpr ⟨hpart, fun t ht => ?_⟩)
  obtain ⟨u, hu, rfl⟩ := List.mem_map.mp ht
  exact List.not_mem_append hgap (hparts u hu)

/-- A text tells the parts that it was joined from, if none of them is empty or holds the code point
that begins the separator. -/
theorem eq_of_join_eq {gap : Text} {parts others : List Text} (hgap : sep ∉ gap)
    (hparts : ∀ t ∈ parts, t ≠ [] ∧ sep ∉ t) (hothers : ∀ t ∈ others, t ≠ [] ∧ sep ∉ t)
    (h : join (sep :: gap) parts = join (sep :: gap) others) : parts = others := by
  have hsplit := congrArg (splitOn sep) h
  cases parts with
  | nil =>
    cases others with
    | nil => rfl
    | cons other others =>
      rw [splitOn_join_cons hgap fun t ht => (hothers t ht).2] at hsplit
      -- splitting nothing gives one empty part, and no part is empty
      exact absurd (List.cons.inj hsplit).1.symm (hothers other List.mem_cons_self).1
  | cons part parts =>
    rw [splitOn_join_cons hgap fun t ht => (hparts t ht).2] at hsplit
    cases others with
    | nil => exact absurd (List.cons.inj hsplit).1 (hparts part List.mem_cons_self).1
    | cons other others =>
      rw [splitOn_join_cons hgap fun t ht => (hothers t ht).2] at hsplit
      obtain ⟨rfl, hrest⟩ := List.cons.inj hsplit
      have hinj : Function.Injective (List.map (gap ++ ·) : List Text → List Text) :=
        List.map_injective_iff.mpr (List.append_right_injective gap)
      rw [hinj hrest]

end Text

end MailFilter
