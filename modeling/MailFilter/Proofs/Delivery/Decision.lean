import Mathlib
import MailFilter.Proofs.Delivery.Observation

/-!
# The first pair that matches

A test on header fields, addresses or texts compares each value with each key, all keys with one
value before the next value is looked at, and the first pair that matches decides. Values and keys
are what they expand to before the test: the captures that it replaces may stand in them.

- `Keys.compare`, `Keys.settled?`: one comparison, and whether it ends the search.
- `Keys.firstMatch_eq`: two loops that are left early are one search through the pairs.
- `Keys.firstMatch_eq_some_iff`, `Keys.firstMatch_eq_none_iff`: what the search may find.
- `Test.keys?`, `Test.valuesIn`: the keys of such a test, and its values in a store.
- `Test.evaluate_by_first_pair`: what such a test answers, and what it leaves in the store.

Pairs behind the first one that matches are not compared, so a comparison among them that would
break off does no harm.
-/

namespace MailFilter

open Delivery Run

/-! ## One search instead of two loops -/

namespace Keys

/-- Compares a value with a key. -/
def compare (k : Keys) (pair : Text × Text) : Except Failure (Option (List Text)) :=
  Comparison.groups k.matchType k.comparator pair.1 pair.2

/-- How a comparison ends the search: with the groups of a match, or because it breaks off. A pair
that does not match ends nothing. -/
def settled? (k : Keys) (pair : Text × Text) : Option (Except Failure (List Text)) :=
  match k.compare pair with
  | .ok none => none
  | .ok (some groups) => some (.ok groups)
  | .error failure => some (.error failure)

/-- What the end of a search, if there was one, means for the test. -/
def found : Option (Except Failure (List Text)) → Except Failure (Option (List Text))
  | none => .ok none
  | some (.ok groups) => .ok (some groups)
  | some (.error failure) => .error failure

/-- A pair matches with these groups, and no pair before it matches. -/
def FirstPair (k : Keys) (pairs : List (Text × Text)) (pair : Text × Text) (groups : List Text) :
    Prop :=
  ∃ before after, pairs = before ++ pair :: after ∧ k.compare pair = .ok (some groups) ∧
    ∀ other ∈ before, k.compare other = .ok none

variable {k : Keys}

theorem FirstPair.mem {pairs : List (Text × Text)} {pair : Text × Text} {groups : List Text}
    (h : k.FirstPair pairs pair groups) : pair ∈ pairs := by
  obtain ⟨before, after, rfl, -, -⟩ := h
  exact List.mem_append_right before List.mem_cons_self

theorem FirstPair.compare_eq {pairs : List (Text × Text)} {pair : Text × Text}
    {groups : List Text} (h : k.FirstPair pairs pair groups) :
    k.compare pair = .ok (some groups) := by
  obtain ⟨-, -, -, hmatch, -⟩ := h
  exact hmatch

theorem settled?_eq_none_iff {pair : Text × Text} :
    k.settled? pair = none ↔ k.compare pair = .ok none := by
  unfold settled?
  split <;> simp_all

theorem settled?_eq_ok_iff {pair : Text × Text} {groups : List Text} :
    k.settled? pair = some (.ok groups) ↔ k.compare pair = .ok (some groups) := by
  unfold settled?
  split <;> simp_all

theorem firstKey_eq (k : Keys) (value : Text) (keys : List Text) :
    firstMatch.firstKey k value keys = found ((keys.map (value, ·)).findSome? k.settled?) := by
  induction keys with
  | nil => rfl
  | cons key keys ih =>
    rw [firstMatch.firstKey, List.map_cons, List.findSome?_cons, ih]
    unfold settled? compare
    rcases Comparison.groups k.matchType k.comparator value key with failure | _ | groups
    · rfl
    · rfl
    · rfl

/-- Leaving both loops at the first match is one search through all pairs. -/
theorem firstMatch_eq (k : Keys) (keys values : List Text) :
    k.firstMatch keys values = found ((values ×ˢ keys).findSome? k.settled?) := by
  induction values with
  | nil => rfl
  | cons value values ih =>
    rw [firstMatch, firstKey_eq, ih, List.product_cons, List.findSome?_append]
    rcases (keys.map (value, ·)).findSome? k.settled? with _ | failure | groups
    · rfl
    · rfl
    · rfl

theorem found_eq_none_iff {result : Option (Except Failure (List Text))} :
    found result = .ok none ↔ result = none := by
  rcases result with _ | failure | groups <;> simp [found]

theorem found_eq_some_iff {result : Option (Except Failure (List Text))} {groups : List Text} :
    found result = .ok (some groups) ↔ result = some (.ok groups) := by
  rcases result with _ | failure | groups <;> simp [found]

/-- No pair matches. -/
theorem firstMatch_eq_none_iff {keys values : List Text} :
    k.firstMatch keys values = .ok none ↔ ∀ pair ∈ values ×ˢ keys, k.compare pair = .ok none := by
  rw [firstMatch_eq, found_eq_none_iff, List.findSome?_eq_none_iff]
  exact forall₂_congr fun pair _ => settled?_eq_none_iff

/-- The groups are those of the first pair that matches. -/
theorem firstMatch_eq_some_iff {keys values groups : List Text} :
    k.firstMatch keys values = .ok (some groups) ↔
      ∃ pair, k.FirstPair (values ×ˢ keys) pair groups := by
  rw [firstMatch_eq, found_eq_some_iff, List.findSome?_eq_some_iff, exists_comm]
  simp only [FirstPair, settled?_eq_none_iff, settled?_eq_ok_iff]

/-- Where no comparison breaks off, neither does the search. -/
theorem exists_firstMatch_eq_ok {keys values : List Text}
    (h : ∀ pair ∈ values ×ˢ keys, ∃ answer, k.compare pair = .ok answer) :
    ∃ answer, k.firstMatch keys values = .ok answer := by
  rw [firstMatch_eq]
  rcases hsearch : (values ×ˢ keys).findSome? k.settled? with _ | failure | groups
  · exact ⟨none, rfl⟩
  · -- the pair that broke the search off is compared without breaking off
    obtain ⟨pair, hpair, hfailure⟩ := List.exists_of_findSome?_eq_some hsearch
    obtain ⟨answer, hanswer⟩ := h pair hpair
    unfold settled? at hfailure
    rw [hanswer] at hfailure
    cases answer <;> cases hfailure
  · exact ⟨some groups, rfl⟩

end Keys

/-! ## Tests that compare values with keys -/

namespace Test

/-- The keys of a test on header fields, addresses or texts. -/
def keys? : Test → Option Keys
  | .header k _ | .address k _ _ | .string k _ => some k
  | .constant _ | .allOf _ | .anyOf _ | .negation _ | .present _ => none

/-- The values that such a test takes from the message, or from its own texts, with a store. -/
def valuesIn (e : Surroundings) (store : Store) : Test → Except Failure (List Text)
  | .header _ names => e.message.textsOf (names.map (e.expanded store))
  | .address _ part names => part.textsOf e.message (names.map (e.expanded store))
  | .string _ sources => .ok (sources.map (e.expanded store))
  | .constant _ | .allOf _ | .anyOf _ | .negation _ | .present _ => .ok []

variable {test : Test} {k : Keys} {e : Surroundings} {s t : State}

theorem exec_of_keys (hk : test.keys? = some k) (e : Surroundings) (s : State) :
    exec test.evaluate e s =
      match (test.valuesIn e s.store).bind (k.firstMatch (k.keys.map (e.expanded s.store))) with
      | .ok none => (.ok false, s)
      | .ok (some groups) => (.ok true, s.matched e k.matchType groups)
      | .error failure => (.error failure, s) := by
  -- three sources of values, and one way to compare them
  cases test with
  | header k names =>
    cases hk
    rw [evaluate]
    exact Keys.exec_decide (exec_headerValues names e s)
  | address k part names =>
    cases hk
    rw [evaluate]
    exact Keys.exec_decide (exec_addressValues part names e s)
  | string k sources =>
    cases hk
    rw [evaluate]
    exact Keys.exec_decide (exec_expandAll sources e s)
  | constant b => cases hk
  | allOf tests => cases hk
  | anyOf tests => cases hk
  | negation test => cases hk
  | present names => cases hk

/-- Such a test answers if its values can be taken and the search through the pairs does not break
off. It holds if the search has found a match, and leaves the state as it was if not. -/
theorem exec_eq_ok_iff (hk : test.keys? = some k) {holds : Bool} :
    exec test.evaluate e s = (.ok holds, t) ↔
      ∃ values answer, test.valuesIn e s.store = .ok values ∧
        k.firstMatch (k.keys.map (e.expanded s.store)) values = .ok answer ∧
        holds = answer.isSome ∧ t = answer.elim s (s.matched e k.matchType) := by
  rw [exec_of_keys hk]
  rcases hvalues : test.valuesIn e s.store with failure | values
  · constructor
    · intro h
      cases h
    · rintro ⟨_, _, hok, -⟩
      cases hok
  · simp only [Except.bind, Except.ok.injEq, exists_and_left, exists_eq_left']
    rcases k.firstMatch (k.keys.map (e.expanded s.store)) values with failure | _ | groups
    · simp
    · simp [eq_comm]
    · simp [eq_comm]

/-- A test on header fields, addresses or texts answers unless a comparison breaks off. It holds
exactly if some value matches some key, both being what they expand to before the test. If it holds,
its keys are globs and variables are enabled, then the captures are the first nine groups of the first
pair that matches, all keys being compared with one value before the next one. In every other case
the store stays as it was, and the bindings stay in any case. -/
theorem evaluate_by_first_pair (hk : test.keys? = some k) (e : Surroundings) (s : State) :
    let pairs (values : List Text) := values ×ˢ k.keys.map (e.expanded s.store)
    (∀ values, test.valuesIn e s.store = .ok values →
      (∀ pair ∈ pairs values, ∃ answer, k.compare pair = .ok answer) →
        ∃ holds t, exec test.evaluate e s = (.ok holds, t)) ∧
    ∀ holds t, exec test.evaluate e s = (.ok holds, t) →
      ∃ values, test.valuesIn e s.store = .ok values ∧
        (holds = true ↔ ∃ pair ∈ pairs values, ∃ groups, k.compare pair = .ok (some groups)) ∧
        (if holds = true ∧ k.matchType = .glob ∧ e.variablesEnabled = true then
          ∃ pair groups, k.FirstPair (pairs values) pair groups ∧
            t.store.captures = groups.take 9
        else t.store = s.store) ∧
        t.store.bindings = s.store.bindings := by
  intro pairs
  constructor
  · intro values hvalues hcompare
    obtain ⟨answer, hanswer⟩ := Keys.exists_firstMatch_eq_ok hcompare
    exact ⟨_, _, (exec_eq_ok_iff hk).mpr ⟨values, answer, hvalues, hanswer, rfl, rfl⟩⟩
  · intro holds t hexec
    obtain ⟨values, answer, hvalues, hanswer, rfl, rfl⟩ := (exec_eq_ok_iff hk).mp hexec
    refine ⟨values, hvalues, ?_⟩
    cases answer with
    | none =>
      have hnone := Keys.firstMatch_eq_none_iff.mp hanswer
      refine ⟨⟨nofun, ?_⟩, rfl, rfl⟩
      rintro ⟨pair, hpair, groups, hmatch⟩
      rw [hnone pair hpair] at hmatch
      cases hmatch
    | some groups =>
      obtain ⟨pair, hfirst⟩ := Keys.firstMatch_eq_some_iff.mp hanswer
      refine ⟨⟨fun _ => ⟨pair, hfirst.mem, groups, hfirst.compare_eq⟩, fun _ => rfl⟩, ?_, ?_⟩
      · split
        · next hkept =>
          obtain ⟨-, hglob, hon⟩ := hkept
          refine ⟨pair, groups, hfirst, ?_⟩
          show (s.matched e k.matchType groups).store.captures = groups.take 9
          rw [State.store_matched, if_pos hglob, hon]
          rfl
        -- the groups are kept only for a glob, and only while variables are enabled
        · next hnot =>
          show (s.matched e k.matchType groups).store = s.store
          rw [State.store_matched]
          split
          · next hglob =>
            have hoff : e.variablesEnabled = false := by simpa [hglob] using hnot
            rw [hoff]
            rfl
          · rfl
      · exact State.bindings_matched s e k.matchType groups

/-- The second value would match the first key, but the first value comes before it. The keys look at
the capture that the match replaces. The values are the texts of a test, or those of two header fields
of a message. -/
theorem evaluate_by_first_pair_captured :
    let k : Keys := ⟨["$\x7b1\x7d?*", "x*"], .glob, .octet⟩
    let onTexts : Test := .string k ["xyz", "$\x7b1\x7db-c"]
    let onFields : Test := .header k ["List-$\x7b1\x7d"]
    let message := Message.ofValues [("list-a", "xyz"), ("To", "ann@x.org"), ("List-A", "ab-c")]
    let e : Surroundings := ⟨message, true⟩
    let s : State := ⟨Store.empty.capture ["a"], {}, .empty⟩
    let TakesFirst (test : Test) : Prop :=
      test.keys? = some k ∧ ∃ t values pair groups, exec test.evaluate e s = (.ok true, t) ∧
        test.valuesIn e s.store = .ok values ∧ values = (["xyz", "ab-c"] : List Text) ∧
        k.FirstPair (values ×ˢ (["a?*", "x*"] : List Text)) pair groups ∧
        t.store.captures = groups.take 9 ∧ t.store.captures = ["yz"]
    TakesFirst onTexts ∧ TakesFirst onFields := by
  intro k onTexts onFields message e s TakesFirst
  have hkeys : k.keys.map (e.expanded s.store) = (["a?*", "x*"] : List Text) := by cbv
  -- both tests have the same keys and values, so one argument serves both
  have htakes {test : Test} (hk : test.keys? = some k)
      (hexec : exec test.evaluate e s = (.ok true, (exec test.evaluate e s).2))
      (hvalues : test.valuesIn e s.store = .ok (["xyz", "ab-c"] : List Text))
      (hcaptures : (exec test.evaluate e s).2.store.captures = ["yz"]) : TakesFirst test := by
    obtain ⟨values, htaken, -, hstore, -⟩ := (evaluate_by_first_pair hk e s).2 _ _ hexec
    obtain ⟨pair, groups, hfirst, hfirstNine⟩ := hstore
    obtain rfl := Except.ok.inj (htaken.symm.trans hvalues)
    rw [hkeys] at hfirst
    exact ⟨hk, _, _, pair, groups, hexec, htaken, rfl, hfirst, hfirstNine, hcaptures⟩
  exact ⟨htakes rfl (by cbv) (by cbv) (by cbv), htakes rfl (by cbv) (by cbv) (by cbv)⟩

end Test

end MailFilter
