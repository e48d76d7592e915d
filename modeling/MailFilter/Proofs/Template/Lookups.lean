import Mathlib
import MailFilter.Proofs.Template.Substitution

/-!
# The names that expansion looks up

The references of a text can be listed without expanding it, by going from marker to marker and past
each reference that was read. Expansion goes code point by code point and looks at backslashes too,
but both meet the same references: those at the sites of the text.

- `Template.referencesFrom`: the names that are met by going from marker to marker.
- `Template.expandM`: expansion that asks for the values one after another.
- `Template.siteNames`: the names at the sites from a position on.
- `Template.references_drop`, `Template.referencesFrom_eq_siteNames`: both ways to list references
  meet the sites.
- `Template.length_expandWith_nil_le`: each reference takes code points away that only its value can
  give back.
- `Template.references_eq_lookups`: the references are what expansion asks for, and all that it
  depends on.
-/

namespace MailFilter

namespace Template

/-! ## From marker to marker -/

/-- The first position of a marker, from a position on. -/
def markerFrom? (t : Text) (p : Nat) : Option Nat :=
  (List.range' p (t.length - p)).find? fun i => (t.drop i).take 2 = marker

/-- A position is the next one of a marker if a marker stands there and none before it. -/
theorem markerFrom?_eq_some_iff {t : Text} {p i : Nat} :
    markerFrom? t p = some i ↔
      (p ≤ i ∧ i < t.length ∧ (t.drop i).take 2 = marker) ∧
        ∀ j, p ≤ j → j < i → (t.drop j).take 2 ≠ marker := by
  rw [markerFrom?, List.find?_range'_eq_some, List.mem_range'_1]
  constructor
  · rintro ⟨hmark, ⟨hp, hi⟩, hfirst⟩
    exact ⟨⟨hp, by omega, by simpa using hmark⟩, fun j hpj hji => by simpa using hfirst j hpj hji⟩
  · rintro ⟨⟨hp, hi, hmark⟩, hfirst⟩
    exact ⟨by simpa using hmark, ⟨hp, by omega⟩, fun j hpj hji => by simpa using hfirst j hpj hji⟩

/-- There is no next position if no marker stands behind this one. -/
theorem markerFrom?_eq_none_iff {t : Text} {p : Nat} :
    markerFrom? t p = none ↔ ∀ i, p ≤ i → i < t.length → (t.drop i).take 2 ≠ marker := by
  rw [markerFrom?, List.find?_range'_eq_none]
  constructor
  · intro h i hp hi
    simpa using h i hp (by omega)
  · intro h i hp hi
    simpa using h i hp (by omega)

/-- A reference ends behind its marker. -/
theorem lt_of_referenceAt? {t name : Text} {i stop : Nat}
    (h : referenceAt? t i = some (name, stop)) : i < stop := by
  obtain ⟨body, -, -, hstop, -⟩ := referenceAt?_eq_some_iff.mp h
  omega

/-- The names of the references from a position on: the next marker is looked for, and reading goes
on past its reference, or behind the marker's first code point where no reference can be read. -/
def referencesFrom (t : Text) (p : Nat) : List Text :=
  match _hm : markerFrom? t p with
  | none => []
  | some i =>
    match _hr : referenceAt? t i with
    | none => referencesFrom t (i + 1)
    | some (name, stop) => name :: referencesFrom t stop
termination_by t.length - p
decreasing_by
  · obtain ⟨⟨hp, hi, -⟩, -⟩ := markerFrom?_eq_some_iff.mp _hm
    omega
  · obtain ⟨⟨hp, hi, -⟩, -⟩ := markerFrom?_eq_some_iff.mp _hm
    have := lt_of_referenceAt? _hr
    omega

/-! ## Asking for values -/

/-- Expansion where the values of names are asked for one after another, and nothing stands for a
name without a value. -/
def expandM {m : Type → Type} [Monad m] (lookup : Text → m (Option Text)) (t : Text) : m Text :=
  match _h : head t with
  | .ended => return []
  | .reference name after => do
    let value ← lookup name
    return value.getD [] ++ (← expandM lookup after)
  | .literal c after => return c :: (← expandM lookup after)
termination_by t.length
decreasing_by
  · exact length_head_reference _h
  · exact length_head_literal _h

/-- The value of a name in a store, and a note that it was asked for. -/
def noting (store : Store) (name : Text) : StateM (List Text) (Option Text) :=
  modifyGet fun asked => (store.lookup? name, asked ++ [name])

/-! ## Steps of the scan -/

theorem expandWith_of_ended {value : Text → Text} {t : Text} (h : head t = .ended) :
    expandWith value t = [] := by
  rw [expandWith]
  split <;> simp_all

theorem expandWith_of_reference {value : Text → Text} {t name after : Text}
    (h : head t = .reference name after) :
    expandWith value t = value name ++ expandWith value after := by
  rw [expandWith]
  split <;> simp_all

theorem expandWith_of_literal {value : Text → Text} {t after : Text} {c : CodePoint}
    (h : head t = .literal c after) : expandWith value t = c :: expandWith value after := by
  rw [expandWith]
  split <;> simp_all

/-- Each reference takes a code point away at least, and its value alone can give it back. -/
theorem length_expandWith_nil_le (t : Text) :
    (expandWith (fun _ => []) t).length + (references t).length ≤ t.length := by
  -- step by step: a literal stays, a reference is left out
  fun_induction references t with
  | case1 t hh => simp [expandWith_of_ended hh]
  | case2 t name after hh ih =>
    have hshorter := length_head_reference hh
    rw [expandWith_of_reference hh, List.nil_append, List.length_cons]
    omega
  | case3 t c after hh ih =>
    rw [expandWith_of_literal hh, eq_cons_of_head_literal hh, List.length_cons, List.length_cons]
    omega

/-- Nothing is found in an empty store. -/
theorem lookup?_empty (name : Text) : Store.empty.lookup? name = none := by
  have hcapture : Store.empty.captureOf? name.lower = none := by
    unfold Store.captureOf?
    split <;> rfl
  have hbinding : Store.empty.bindings.get? name.lower = none := rfl
  unfold Store.lookup?
  dsimp only
  rw [hcapture, hbinding]
  split
  · split <;> rfl
  · rfl

/-- While nothing is bound, a text stands for itself only if it has no reference. -/
theorem expand_empty_eq_self_iff (t : Text) : expand .empty t = t ↔ references t = [] := by
  constructor
  · intro hself
    have hle := length_expandWith_nil_le t
    have hempty : (fun name => (Store.empty.lookup? name).getD []) = fun _ => [] :=
      funext fun name => by rw [lookup?_empty, Option.getD_none]
    rw [expand, hempty] at hself
    rw [hself] at hle
    exact List.eq_nil_of_length_eq_zero (by omega)
  · exact expand_eq_self .empty t

section ExpandM

variable {m : Type → Type} [Monad m] {lookup : Text → m (Option Text)} {t after : Text}

theorem expandM_of_ended (h : head t = .ended) : expandM lookup t = pure [] := by
  rw [expandM]
  split <;> simp_all

theorem expandM_of_reference {name : Text} (h : head t = .reference name after) :
    expandM lookup t = do
      let value ← lookup name
      return value.getD [] ++ (← expandM lookup after) := by
  rw [expandM]
  split <;> simp_all

theorem expandM_of_literal {c : CodePoint} (h : head t = .literal c after) :
    expandM lookup t = return c :: (← expandM lookup after) := by
  rw [expandM]
  split <;> simp_all

end ExpandM

/-- While a text is expanded its references are asked for, one after another. -/
theorem run_expandM_noting (store : Store) (t : Text) (asked : List Text) :
    (expandM (noting store) t).run asked = (expand store t, asked ++ references t) := by
  unfold expand
  fun_induction references t generalizing asked with
  | case1 t hh =>
    rw [expandM_of_ended hh, expandWith_of_ended hh, List.append_nil]
    rfl
  | case2 t name after hh ih =>
    have hask : (noting store name).run asked = (store.lookup? name, asked ++ [name]) := rfl
    rw [expandM_of_reference hh, expandWith_of_reference hh, StateT.run_bind, hask]
    show (do
      let rest ← (expandM (noting store) after).run (asked ++ [name])
      pure ((store.lookup? name).getD [] ++ rest.1, rest.2) : Id _) = _
    rw [ih, List.append_assoc]
    rfl
  | case3 t c after hh ih =>
    rw [expandM_of_literal hh, expandWith_of_literal hh, StateT.run_bind, ih]
    rfl

/-! ## The sites -/

/-- The names at the sites from a position on, in order. -/
def siteNames (t : Text) (p : Nat) : List Text :=
  (List.range' p (t.length - p)).filterMap fun i => (siteAt? t i).map Prod.fst

/-- Positions without a site may be passed over. -/
theorem siteNames_of_no_site {t : Text} {p q : Nat} (hpq : p ≤ q) (hq : q ≤ t.length)
    (h : ∀ j, p ≤ j → j < q → siteAt? t j = none) : siteNames t p = siteNames t q := by
  have hmid : p + (q - p) = q := by omega
  have hlen : (q - p) + (t.length - q) = t.length - p := by omega
  have hnone : (List.range' p (q - p)).filterMap (fun i => (siteAt? t i).map Prod.fst) = [] := by
    refine List.filterMap_eq_nil_iff.mpr fun j hj => ?_
    obtain ⟨hlow, hhigh⟩ := List.mem_range'_1.mp hj
    rw [h j hlow (by omega)]
    rfl
  rw [siteNames, siteNames, ← hlen, ← List.range'_append_1, hmid, List.filterMap_append, hnone,
    List.nil_append]

/-- At a site its name comes first, and then the names behind its span. -/
theorem siteNames_of_site {t name : Text} {p stop : Nat} (h : siteAt? t p = some (name, stop)) :
    siteNames t p = name :: siteNames t stop := by
  obtain ⟨hlow, hhigh⟩ := span_of_siteAt? h
  have hfirst : siteNames t p = name :: siteNames t (p + 1) := by
    have hlen : t.length - p = (t.length - (p + 1)) + 1 := by omega
    rw [siteNames, hlen, List.range'_succ, List.filterMap_cons, h]
    rfl
  -- in the span of a site no other one begins
  rw [hfirst, siteNames_of_no_site hlow hhigh fun j hpj hj => siteAt?_eq_none_of_inside h hpj hj]

/-- From every position on, the scan of an expansion meets the names at the sites. -/
theorem references_drop (t : Text) (p : Nat) : references (t.drop p) = siteNames t p := by
  generalize hs : t.drop p = s
  fun_induction references s generalizing p with
  | case1 s hh =>
    have : t.length ≤ p := List.drop_eq_nil_iff.mp (hs.trans (eq_nil_of_head_ended hh))
    simp [siteNames, Nat.sub_eq_zero_of_le this]
  | case2 s name after hh ih =>
    subst hs
    obtain ⟨stop, rfl, hsite⟩ := site_of_head_reference hh
    rcases hsite with hsite | ⟨hback, hsite⟩
    · rw [ih stop rfl, siteNames_of_site hsite]
    · -- no site begins at the backslash
      have hspan := span_of_siteAt? hsite
      have hpass : siteNames t p = siteNames t (p + 1) :=
        siteNames_of_no_site (Nat.le_succ p) (by omega) fun j hpj hj => by
          obtain rfl : j = p := by omega
          exact siteAt?_eq_none_of_backslash hback
      rw [ih stop rfl, hpass, siteNames_of_site hsite]
  | case3 s c after hh ih =>
    subst hs
    obtain ⟨hget, rfl, hnone, -⟩ := no_site_of_head_literal hh
    have hlow : p < t.length := (List.getElem?_eq_some_iff.mp hget).1
    rw [ih (p + 1) rfl]
    refine (siteNames_of_no_site (Nat.le_succ p) hlow fun j hpj hj => ?_).symm
    obtain rfl : j = p := by omega
    exact hnone

/-- Going from marker to marker meets the names at the sites, for every site begins with a marker,
and none begins in the span of another one. -/
theorem referencesFrom_eq_siteNames (t : Text) (p : Nat) : referencesFrom t p = siteNames t p := by
  fun_induction referencesFrom t p with
  | case1 p hm =>
    refine (List.filterMap_eq_nil_iff.mpr fun i hi => ?_).symm
    obtain ⟨hlow, hhigh⟩ := List.mem_range'_1.mp hi
    have hmark := markerFrom?_eq_none_iff.mp hm i hlow (by omega)
    rw [siteAt?, if_neg hmark]
    rfl
  -- a marker without a reference: no site up to the code point behind it
  | case2 p i hm hr ih =>
    obtain ⟨⟨hp, hi, -⟩, hfirst⟩ := markerFrom?_eq_some_iff.mp hm
    rw [ih]
    refine (siteNames_of_no_site (Nat.le_succ_of_le hp) hi fun j hpj hj => ?_).symm
    rcases Nat.lt_succ_iff_lt_or_eq.mp hj with hlt | rfl
    · rw [siteAt?, if_neg (hfirst j hpj hlt)]
    · rw [siteAt?, hr, ite_self]
  -- a site, and none between the last position and the marker
  | case3 p i hm name stop hr ih =>
    obtain ⟨⟨hp, hi, hmark⟩, hfirst⟩ := markerFrom?_eq_some_iff.mp hm
    have hsite := siteAt?_eq_some_iff.mpr ⟨hmark, hr⟩
    have hpass : siteNames t p = siteNames t i :=
      siteNames_of_no_site hp (Nat.le_of_lt hi) fun j hpj hj => by
        rw [siteAt?, if_neg (hfirst j hpj hj)]
    rw [ih, hpass, siteNames_of_site hsite]

/-- The references of a text, as they are listed by going from marker to marker, are the names that
expansion asks for, in order and each as often as it is asked for. Expansion depends on nothing else
in the store, and while nothing is bound it changes every text that has a reference. -/
theorem references_eq_lookups (t : Text) :
    references t = referencesFrom t 0 ∧
    (∀ (store : Store) (asked : List Text),
      (expandM (noting store) t).run asked = (expand store t, asked ++ references t)) ∧
    (∀ store other : Store, (∀ name ∈ references t, store.lookup? name = other.lookup? name) →
      expand store t = expand other t) ∧
    (expand .empty t = t ↔ references t = []) := by
  refine ⟨?_, fun store asked => run_expandM_noting store t asked, fun store other hagree => ?_,
    expand_empty_eq_self_iff t⟩
  · rw [referencesFrom_eq_siteNames, ← references_drop, List.drop_zero]
  · exact expandWith_congr t fun name hname => by rw [hagree name hname]

/-- A marker in a name that cannot be read, a reference behind backslashes, and one name twice. -/
theorem references_eq_lookups_repeated :
    let t : Text := "$\x7b$\x7bA\x7d \\\\$\x7bb\x7d$\x7ba\\\x7d$\x7bA\x7d"
    let store := (Store.empty.bind "a" "1").bind "b" "$\x7ba\x7d"
    let other := (Store.empty.bind "B" "$\x7ba\x7d").bind "A" "1"
    referencesFrom t 0 = (["A", "b", "A"] : List Text) ∧
      (expandM (noting store) t).run [] = (expand store t, (["A", "b", "A"] : List Text)) ∧
      expand store t = expand other t ∧ expand .empty t ≠ t := by
  intro t store other
  have hnames : references t = (["A", "b", "A"] : List Text) :=
    (references_drop t 0).trans (by decide)
  obtain ⟨hmarkers, hasked, hagree, hself⟩ := references_eq_lookups t
  have hempty := hasked store []
  rw [hnames] at hmarkers hempty hagree hself
  have hvalues : (["A", "b", "A"] : List Text).map store.lookup? =
      (["A", "b", "A"] : List Text).map other.lookup? := by cbv
  have hsame : expand store t = expand other t :=
    hagree store other (List.map_inj_left.mp hvalues)
  have hchanged : expand .empty t ≠ t := by
    rw [Ne, hself]
    decide
  exact ⟨hmarkers.symm, hempty, hsame, hchanged⟩

end Template

end MailFilter
