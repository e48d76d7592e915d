import Mathlib
import MailFilter.Proofs.Text.Parts
import MailFilter.Settings.Environment

/-!
# Paths and their texts

A path in normal form is told by its text: the text of a path that was made from texts leads back to
the path. So a directory that is kept as a text is the directory that it was.

- `Path.IsNormal`: no name is blank or leads nowhere, and none holds a slash.
- `Path.ofText_text`: a normal path is the path of its text.
- `Environment.isNormal_of_settingsDirectory`: the directory of settings is normal.
-/

namespace MailFilter

/-! ## Normal paths -/

namespace Path

/-- A path in normal form. -/
structure IsNormal (p : Path) : Prop where
  root : p.root = [] ∨ p.root = ("/" : Text) ∨ p.root = ("//" : Text)
  names : ∀ name ∈ p.names, name ≠ [] ∧ name ≠ hereName ∧ .char '/' ∉ name

theorem isNormal_ofText (t : Text) : (ofText t).IsNormal where
  root := by
    show rootOf t = _ ∨ rootOf t = _ ∨ rootOf t = _
    unfold rootOf
    split
    · exact .inl rfl
    · exact .inr (.inr rfl)
    · exact .inr (.inl rfl)
  names := by
    intro name hname
    obtain ⟨hname, hhere⟩ := List.mem_filter.mp hname
    obtain ⟨hsplit, hblank⟩ := List.mem_filter.mp hname
    refine ⟨?_, of_decide_eq_true hhere, Text.not_mem_of_mem_splitOn name hsplit⟩
    rintro rfl
    cases hblank

theorem IsNormal.append {p q : Path} (hp : p.IsNormal) (hq : q.IsNormal) : (p / q).IsNormal := by
  show (Path.append p q).IsNormal
  unfold Path.append
  split
  · exact ⟨hp.root, List.forall_mem_append.mpr ⟨hp.names, hq.names⟩⟩
  · exact hq

/-- The names behind a root are found again. -/
theorem names_ofText_join {names : List Text}
    (h : ∀ name ∈ names, name ≠ [] ∧ name ≠ hereName ∧ .char '/' ∉ name) :
    (ofText (Text.join "/" names)).names = names := by
  cases names with
  | nil => rfl
  | cons name rest =>
    have hsplit : Text.splitOn (.char '/') (Text.join "/" (name :: rest)) = name :: rest :=
      Text.splitOn_join fun t ht => (h t ht).2.2
    show ((Text.splitOn (.char '/') (Text.join "/" (name :: rest))).filter _).filter _ = _
    rw [hsplit]
    have hblank : (name :: rest).filter (fun name => !name.isEmpty) = name :: rest :=
      List.filter_eq_self.mpr fun t ht => by simpa using (h t ht).1
    rw [hblank]
    exact List.filter_eq_self.mpr fun t ht => decide_eq_true (h t ht).2.1

/-- A slash in front changes no name. -/
theorem names_ofText_slash (t : Text) : (ofText (.char '/' :: t)).names = (ofText t).names := by
  show ((Text.splitOn (.char '/') (.char '/' :: t)).filter _).filter _ = _
  rw [Text.splitOn, if_pos rfl]
  rfl

/-- The slashes in front of names are those of the root. -/
theorem takeWhile_join {names : List Text}
    (h : ∀ name ∈ names, name ≠ [] ∧ name ≠ hereName ∧ .char '/' ∉ name) :
    (Text.join "/" names).takeWhile (· = .char '/') = [] := by
  cases names with
  | nil => rfl
  | cons name rest =>
    obtain ⟨hblank, -, hslash⟩ := h name List.mem_cons_self
    obtain ⟨c, t, rfl⟩ := List.exists_cons_of_ne_nil hblank
    have hc : c ≠ .char '/' := fun hc => hslash (hc ▸ List.mem_cons_self)
    have hjoin : ∃ t', Text.join "/" ((c :: t) :: rest) = c :: t' := by
      cases rest with
      | nil => exact ⟨t, by simp [Text.join]⟩
      | cons next rest => exact ⟨_, by simp [Text.join, List.intercalate]; rfl⟩
    obtain ⟨t', hjoin⟩ := hjoin
    rw [hjoin, List.takeWhile_cons_of_neg (by simpa using hc)]

/-- A normal path is the path of its text. -/
theorem ofText_text {p : Path} (h : p.IsNormal) : ofText p.text = p := by
  obtain ⟨root, names⟩ := p
  obtain ⟨hroot, hnames⟩ := h
  have hslashes := takeWhile_join hnames
  have hjoin := names_ofText_join hnames
  have hsame : ∀ t, rootOf t = root → (ofText t).names = names → ofText t = ⟨root, names⟩ := by
    intro t hroot hnames
    rw [← hroot, ← hnames]
    rfl
  rcases hroot with rfl | rfl | rfl
  · cases names with
    | nil => rfl
    | cons name rest =>
      refine hsame _ ?_ hjoin
      show rootOf (Text.join "/" (name :: rest)) = []
      rw [rootOf, hslashes]
      rfl
  · refine hsame _ ?_ ?_
    · show rootOf (.char '/' :: Text.join "/" names) = _
      rw [rootOf, List.takeWhile_cons_of_pos (by decide), hslashes]
      rfl
    · exact (names_ofText_slash _).trans hjoin
  · refine hsame _ ?_ ?_
    · show rootOf (.char '/' :: .char '/' :: Text.join "/" names) = _
      rw [rootOf, List.takeWhile_cons_of_pos (by decide), List.takeWhile_cons_of_pos (by decide),
        hslashes]
      rfl
    · exact (names_ofText_slash _).trans ((names_ofText_slash _).trans hjoin)

end Path

namespace Environment

theorem isNormal_of_settingsDirectory {e : Environment} {directory : Path}
    (h : e.settingsDirectory = .ok directory) : directory.IsNormal := by
  unfold settingsDirectory at h
  split at h
  · cases h
    exact Path.isNormal_ofText _
  · split at h
    · cases h
      exact (Path.isNormal_ofText _).append (Path.isNormal_ofText _)
    · unfold home at h
      split at h
      · cases h
      · split at h
        · cases h
        · cases h
          exact ((Path.isNormal_ofText _).append (Path.isNormal_ofText _)).append
            (Path.isNormal_ofText _)

end Environment

end MailFilter
