import MailFilter.Proofs.Template.Reference

/-!
# Expansion is a substitution

The scanner goes over a text once, skips references that it has read, and falls back by one code
point where none can be read. A substitution needs no order: what stands in its result for a
position of the text depends on the sites alone.

- `Template.piece`, `Template.substitute`: what stands for a position, and the pieces one after
  another.
- `Template.Clear`: the positions at which the scanner may stand; no site goes across them.
- `Template.expandWith_drop`: from such a position on, the scanner writes what the substitution
  writes.
- `Template.expand_eq_substitute`: sites are disjoint, and expansion is the substitution of the
  values of all names at their sites.
-/

namespace MailFilter

namespace Template

/-- Whether a position lies in the span of a site, behind its first code point. -/
def isInsideSite (t : Text) (i : Nat) : Bool :=
  (List.range i).any fun j => (siteAt? t j).any fun (_, stop) => i < stop

/-- What stands for the code point at a position: the value at the first position of a site and
nothing at the others, nothing for a backslash directly before a site, and every other code point
itself. -/
def piece (value : Text → Text) (t : Text) (i : Nat) : Text :=
  match siteAt? t i with
  | some (name, _) => value name
  | none =>
    if isInsideSite t i then []
    else if t[i]? = some (.char '\\') ∧ (siteAt? t (i + 1)).isSome then []
    else t[i]?.toList

/-- What stands for the positions from `p` up to `q`. -/
def pieces (value : Text → Text) (t : Text) (p q : Nat) : Text :=
  (List.range' p (q - p)).flatMap (piece value t)

/-- The text with a value in the place of every site. -/
def substitute (value : Text → Text) (t : Text) : Text :=
  pieces value t 0 t.length

theorem pieces_append (value : Text → Text) (t : Text) {p q r : Nat} (hpq : p ≤ q) (hqr : q ≤ r) :
    pieces value t p q ++ pieces value t q r = pieces value t p r := by
  have hq : p + (q - p) = q := by omega
  have hlen : (q - p) + (r - q) = r - p := by omega
  rw [pieces, pieces, pieces, ← List.flatMap_append, ← hlen, ← List.range'_append_1, hq]

theorem pieces_succ (value : Text → Text) (t : Text) (p : Nat) :
    pieces value t p (p + 1) = piece value t p := by
  simp [pieces]

theorem isInsideSite_iff {t : Text} {i : Nat} :
    isInsideSite t i = true ↔
      ∃ j name stop, j < i ∧ siteAt? t j = some (name, stop) ∧ i < stop := by
  simp only [isInsideSite, List.any_eq_true, List.mem_range, Option.any_eq_true, Prod.exists,
    decide_eq_true_eq]
  constructor
  · rintro ⟨j, hj, name, stop, hsite, hi⟩
    exact ⟨j, name, stop, hj, hsite, hi⟩
  · rintro ⟨j, name, stop, hj, hsite, hi⟩
    exact ⟨j, hj, name, stop, hsite, hi⟩

/-- The positions of a site give its value once. -/
theorem pieces_span (value : Text → Text) {t name : Text} {i stop : Nat}
    (h : siteAt? t i = some (name, stop)) : pieces value t i stop = value name := by
  have hspan := (span_of_siteAt? h).1
  have hfirst : piece value t i = value name := by rw [piece, h]
  -- a position behind the first one is inside the site, and no site begins there
  have hothers : pieces value t (i + 1) stop = [] := by
    refine List.flatMap_eq_nil_iff.mpr fun j hj => ?_
    obtain ⟨hlow, hhigh⟩ := List.mem_range'_1.mp hj
    have hnone := siteAt?_eq_none_of_inside h hlow (by omega)
    have hinside : isInsideSite t j = true :=
      isInsideSite_iff.mpr ⟨i, name, stop, hlow, h, by omega⟩
    rw [piece, hnone, hinside]
    rfl
  rw [← pieces_append value t (Nat.le_succ i) hspan, pieces_succ, hfirst, hothers, List.append_nil]

theorem piece_of_no_site {value : Text → Text} {t : Text} (hnone : ∀ i, siteAt? t i = none)
    (i : Nat) : piece value t i = t[i]?.toList := by
  have hinside : isInsideSite t i = false := by simp [isInsideSite, hnone]
  simp [piece, hnone, hinside]

/-- Without sites every position stands for itself. -/
theorem pieces_of_no_site {value : Text → Text} {t : Text} (hnone : ∀ i, siteAt? t i = none)
    (k p : Nat) (hp : p + k = t.length) : pieces value t p t.length = t.drop p := by
  -- on the number of positions that are left
  induction k generalizing p with
  | zero => simp [pieces, ← hp, List.drop_eq_nil_of_le]
  | succ k ih =>
    have hlow : p < t.length := by omega
    rw [← pieces_append value t (Nat.le_succ p) hlow, pieces_succ, ih (p + 1) (by omega),
      piece_of_no_site hnone, List.getElem?_eq_getElem hlow, List.drop_eq_getElem_cons hlow]
    rfl

/-! ## The positions of the scanner -/

/-- No site that begins before the position goes past it. -/
def Clear (t : Text) (p : Nat) : Prop :=
  ∀ i name stop, i < p → siteAt? t i = some (name, stop) → stop ≤ p

theorem clear_zero (t : Text) : Clear t 0 := fun _ _ _ h => absurd h (Nat.not_lt_zero _)

theorem Clear.not_inside {t : Text} {p : Nat} (h : Clear t p) : isInsideSite t p = false := by
  refine Bool.eq_false_iff.mpr fun hinside => ?_
  obtain ⟨i, name, stop, hi, hsite, hp⟩ := isInsideSite_iff.mp hinside
  exact absurd (h i name stop hi hsite) (Nat.not_le_of_lt hp)

/-- One code point further, where no site stands in the way. -/
theorem Clear.succ {t : Text} {p : Nat} (h : Clear t p) (hnone : siteAt? t p = none) :
    Clear t (p + 1) := by
  intro i name stop hi hsite
  -- either a site from before, or one at the position itself, where there is none
  rcases Nat.lt_succ_iff_lt_or_eq.mp hi with hlt | rfl
  · exact Nat.le_succ_of_le (h i name stop hlt hsite)
  · rw [hnone] at hsite
    contradiction

/-- Behind a site. -/
theorem Clear.stop {t name : Text} {p stop : Nat} (h : Clear t p)
    (hsite : siteAt? t p = some (name, stop)) : Clear t stop := by
  intro i other stop' hi hother
  -- a site from before, this one, or one inside of it
  rcases Nat.lt_trichotomy i p with hlt | rfl | hgt
  · exact Nat.le_trans (h i other stop' hlt hother) (Nat.le_of_lt (span_of_siteAt? hsite).1)
  · rw [hsite] at hother
    obtain ⟨-, rfl⟩ := Prod.mk.injEq .. ▸ Option.some.injEq .. ▸ hother
    exact Nat.le_refl _
  · rw [siteAt?_eq_none_of_inside hsite hgt hi] at hother
    contradiction

/-- The scanner reads a reference where a site stands, or a backslash and then a site. -/
theorem site_of_head_reference {t name after : Text} {p : Nat}
    (h : head (t.drop p) = .reference name after) :
    ∃ stop, after = t.drop stop ∧
      (siteAt? t p = some (name, stop) ∨
        t[p]? = some (.char '\\') ∧ siteAt? t (p + 1) = some (name, stop)) := by
  unfold head at h
  split at h
  · contradiction
  · next c rest hdrop =>
    have hget : t[p]? = some c := getElem?_of_drop hdrop
    have hrest : t.drop (p + 1) = rest := drop_succ_of_drop hdrop
    split at h
    · next n a href =>
      obtain ⟨rfl, rfl⟩ := Head.reference.injEq .. ▸ h
      split at href
      · next hback =>
        obtain ⟨stop, hsite, hafter⟩ := siteAt?_of_reference? (hrest ▸ href)
        exact ⟨stop, hafter, .inr ⟨hback ▸ hget, hsite⟩⟩
      · obtain ⟨stop, hsite, hafter⟩ := siteAt?_of_reference? (hdrop ▸ href)
        exact ⟨stop, hafter, .inl hsite⟩
    · contradiction

/-- The scanner takes a code point for itself only where a substitution does. -/
theorem no_site_of_head_literal {t after : Text} {c : CodePoint} {p : Nat}
    (h : head (t.drop p) = .literal c after) :
    t[p]? = some c ∧ after = t.drop (p + 1) ∧ siteAt? t p = none ∧
      (c = .char '\\' → siteAt? t (p + 1) = none) := by
  have hdrop := eq_cons_of_head_literal h
  have hget : t[p]? = some c := getElem?_of_drop hdrop
  have hrest : t.drop (p + 1) = after := drop_succ_of_drop hdrop
  rw [hdrop, head] at h
  split at h
  · contradiction
  · next href =>
    refine ⟨hget, hrest.symm, ?_⟩
    split at href
    · next hback =>
      refine ⟨?_, fun _ => siteAt?_eq_none_of_reference? (hrest ▸ href)⟩
      exact siteAt?_eq_none_of_backslash (hback ▸ hget)
    · next hback =>
      exact ⟨siteAt?_eq_none_of_reference? (hdrop ▸ href), fun h => absurd h hback⟩

/-- From a clear position on, the scanner writes what stands for the remaining positions. -/
theorem expandWith_drop (value : Text → Text) {t : Text} {p : Nat} (hclear : Clear t p) :
    expandWith value (t.drop p) = pieces value t p t.length := by
  -- by the recursion of the scanner; that its position is clear is what carries over
  generalize hs : t.drop p = s
  fun_induction expandWith value s generalizing p with
  | case1 s hh =>
    have : t.length ≤ p := List.drop_eq_nil_iff.mp (hs.trans (eq_nil_of_head_ended hh))
    simp [pieces, Nat.sub_eq_zero_of_le this]
  | case2 s name after hh ih =>
    subst hs
    obtain ⟨stop, rfl, hsite⟩ := site_of_head_reference hh
    rcases hsite with hsite | ⟨hback, hsite⟩
    · -- the site at this position is one piece
      obtain ⟨hlow, hhigh⟩ := span_of_siteAt? hsite
      rw [ih (hclear.stop hsite) rfl, ← pieces_span value hsite,
        pieces_append value t (Nat.le_of_lt hlow) hhigh]
    · -- the backslash is a position of its own, and nothing stands for it
      obtain ⟨hlow, hhigh⟩ := span_of_siteAt? hsite
      have hnone : siteAt? t p = none := siteAt?_eq_none_of_backslash hback
      have hdropped : piece value t p = [] := by
        simp [piece, hnone, hclear.not_inside, hback, hsite]
      rw [ih ((hclear.succ hnone).stop hsite) rfl, ← pieces_span value hsite,
        pieces_append value t (Nat.le_of_lt hlow) hhigh,
        ← pieces_append value t (Nat.le_succ p) (Nat.le_trans (Nat.le_of_lt hlow) hhigh),
        pieces_succ, hdropped, List.nil_append]
  | case3 s c after hh ih =>
    subst hs
    obtain ⟨hget, rfl, hnone, hback⟩ := no_site_of_head_literal hh
    have hlow : p < t.length := (List.getElem?_eq_some_iff.mp hget).1
    have hkept : piece value t p = [c] := by
      have : ¬ (c = .char '\\' ∧ (siteAt? t (p + 1)).isSome = true) := by
        rintro ⟨hc, hsome⟩
        rw [hback hc] at hsome
        contradiction
      simp [piece, hnone, hclear.not_inside, hget, this]
    rw [ih (hclear.succ hnone) rfl, ← pieces_append value t (Nat.le_succ p) hlow, pieces_succ,
      hkept]
    rfl

theorem expandWith_eq_substitute (value : Text → Text) (t : Text) :
    expandWith value t = substitute value t :=
  expandWith_drop value (clear_zero t)

/-- Expansion puts the values of all names in the place of their references at once. The spans of
the references are disjoint, so nothing is replaced twice; a backslash directly before a reference
is dropped, and all else is kept. In particular a text without references comes back. -/
theorem expand_eq_substitute (store : Store) (t : Text) :
    (∀ i j name other stop stop', i < j → siteAt? t i = some (name, stop) →
      siteAt? t j = some (other, stop') → stop ≤ j) ∧
    expand store t = substitute (fun name => (store.lookup? name).getD []) t ∧
    ((∀ i, siteAt? t i = none) → expand store t = t) := by
  refine ⟨fun i j name other stop stop' hij hi hj => spans_disjoint hi hj hij, ?_, fun hnone => ?_⟩
  · exact expandWith_eq_substitute _ t
  · rw [expand, expandWith_eq_substitute]
    exact pieces_of_no_site hnone t.length 0 (Nat.zero_add _)

/-- A reference in a span that was rejected, one behind a backslash, and a value that looks like a
reference itself. -/
theorem expand_eq_substitute_nested :
    let t : Text := "$\x7b$\x7ba\x7d\\$\x7bb\x7d"
    let store := (Store.empty.bind "a" "$\x7bb\x7d").bind "B" "1"
    siteAt? t 2 = some (("a" : Text), 6) ∧ siteAt? t 7 = some (("b" : Text), 11) ∧ 6 ≤ 7 ∧
      expand store t = ("$\x7b$\x7bb\x7d1" : Text) := by
  intro t store
  have ha : siteAt? t 2 = some (("a" : Text), 6) := by decide
  have hb : siteAt? t 7 = some (("b" : Text), 11) := by decide
  obtain ⟨hdisjoint, hexpand, -⟩ := expand_eq_substitute store t
  refine ⟨ha, hb, hdisjoint 2 7 _ _ _ _ (by decide) ha hb, ?_⟩
  rw [hexpand]
  decide

end Template

end MailFilter
