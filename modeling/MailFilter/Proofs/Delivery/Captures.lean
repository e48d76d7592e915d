import MailFilter.Proofs.Delivery.Decision

/-!
# The last match wins

A test may be made of other tests, of which some are not decided at all: a list of tests is left at
the first one that settles the matter. Here this is said by rules, apart from the functions that decide
tests: what is decided are tests that are made of no others, one after another, each in the state in
which it is. The captures that they leave are those of the last glob that was found, whatever the
answer is used for further up.

- `Decision`, `Decides`: what is decided for a test, from the left.
- `exec_evaluate_eq_ok_iff`: a test that does not break off is decided as the rules say, and only so.
- `Decision.isMatch`, `Decision.Finds`: a glob that was found, and its groups.
- `CapturesAfter`: the captures after some decisions.
- `Test.evaluate_keeps_last_match`: what a test leaves behind.

Nothing is said here of the captures where a test breaks off.
-/

namespace MailFilter

/-- Whether a test is made of other tests. -/
def Test.isCompound : Test → Bool
  | .allOf _ | .anyOf _ | .negation _ => true
  | .constant _ | .present _ | .header _ _ | .address _ _ _ | .string _ _ => false

namespace Delivery

open Run

/-- A test that was decided: the state in which it was, and whether it holds. -/
structure Decision where
  test : Test
  state : State
  holds : Bool

/-- What is decided for a test from a state on, whether it holds, and the state in which that ends.
Tests of a list are decided from the left until one settles the matter. -/
inductive Decides (e : Surroundings) : Test → State → List Decision → Bool → State → Prop where
  | single {test : Test} {s t : State} {holds : Bool} (hsingle : test.isCompound = false)
      (h : exec test.evaluate e s = (.ok holds, t)) : Decides e test s [⟨test, s, holds⟩] holds t
  | negation {test : Test} {s t : State} {decisions : List Decision} {holds : Bool}
      (h : Decides e test s decisions holds t) :
      Decides e (.negation test) s decisions (!holds) t
  | allOfNone {s : State} : Decides e (.allOf []) s [] true s
  | allOfFails {test : Test} {rest : List Test} {s t : State} {decisions : List Decision}
      (h : Decides e test s decisions false t) :
      Decides e (.allOf (test :: rest)) s decisions false t
  | allOfGoesOn {test : Test} {rest : List Test} {s u t : State} {decisions more : List Decision}
      {holds : Bool} (h : Decides e test s decisions true u)
      (hrest : Decides e (.allOf rest) u more holds t) :
      Decides e (.allOf (test :: rest)) s (decisions ++ more) holds t
  | anyOfNone {s : State} : Decides e (.anyOf []) s [] false s
  | anyOfHolds {test : Test} {rest : List Test} {s t : State} {decisions : List Decision}
      (h : Decides e test s decisions true t) :
      Decides e (.anyOf (test :: rest)) s decisions true t
  | anyOfGoesOn {test : Test} {rest : List Test} {s u t : State} {decisions more : List Decision}
      {holds : Bool} (h : Decides e test s decisions false u)
      (hrest : Decides e (.anyOf rest) u more holds t) :
      Decides e (.anyOf (test :: rest)) s (decisions ++ more) holds t

variable {e : Surroundings}

theorem Decides.exec_evaluate {test : Test} {s t : State} {decisions : List Decision}
    {holds : Bool} (h : Decides e test s decisions holds t) :
    exec test.evaluate e s = (.ok holds, t) := by
  induction h with
  | single _ h => exact h
  | negation _ ih =>
    rw [Test.evaluate, exec_bind_of_ok ih]
    rfl
  | allOfNone => rw [Test.evaluate, Test.evaluateAll, exec_pure]
  | allOfFails _ ih =>
    rw [Test.evaluate, Test.evaluateAll, exec_bind_of_ok ih]
    rfl
  | allOfGoesOn _ _ ih ihrest =>
    rw [Test.evaluate] at ihrest
    rw [Test.evaluate, Test.evaluateAll, exec_bind_of_ok ih]
    exact ihrest
  | anyOfNone => rw [Test.evaluate, Test.evaluateAny, exec_pure]
  | anyOfHolds _ ih =>
    rw [Test.evaluate, Test.evaluateAny, exec_bind_of_ok ih]
    rfl
  | anyOfGoesOn _ _ ih ihrest =>
    rw [Test.evaluate] at ihrest
    rw [Test.evaluate, Test.evaluateAny, exec_bind_of_ok ih]
    exact ihrest

-- the induction is on the test; lists of tests have inductions of their own, for `evaluate` calls
-- the functions on lists

mutual

theorem exists_decides : ∀ (test : Test) {s t : State} {holds : Bool},
    exec test.evaluate e s = (.ok holds, t) → ∃ decisions, Decides e test s decisions holds t
  | .constant b, _, _, _, h => ⟨_, .single rfl h⟩
  | .present names, _, _, _, h => ⟨_, .single rfl h⟩
  | .header k names, _, _, _, h => ⟨_, .single rfl h⟩
  | .address k part names, _, _, _, h => ⟨_, .single rfl h⟩
  | .string k sources, _, _, _, h => ⟨_, .single rfl h⟩
  | .negation test, s, t, holds, h => by
    rw [Test.evaluate] at h
    obtain ⟨b, u, htest, hnot⟩ := exec_bind_eq_ok_iff.mp h
    obtain ⟨decisions, hdecides⟩ := exists_decides test htest
    cases hnot
    exact ⟨decisions, .negation hdecides⟩
  | .allOf tests, s, t, holds, h => by
    rw [Test.evaluate] at h
    exact exists_decides_allOf tests h
  | .anyOf tests, s, t, holds, h => by
    rw [Test.evaluate] at h
    exact exists_decides_anyOf tests h

theorem exists_decides_allOf : ∀ (tests : List Test) {s t : State} {holds : Bool},
    exec (Test.evaluateAll tests) e s = (.ok holds, t) →
      ∃ decisions, Decides e (.allOf tests) s decisions holds t
  | [], s, t, holds, h => by
    rw [Test.evaluateAll, exec_pure] at h
    cases h
    exact ⟨[], .allOfNone⟩
  | test :: rest, s, t, holds, h => by
    rw [Test.evaluateAll] at h
    obtain ⟨b, u, htest, hthen⟩ := exec_bind_eq_ok_iff.mp h
    obtain ⟨decisions, hdecides⟩ := exists_decides test htest
    cases b with
    | false =>
      cases hthen
      exact ⟨decisions, .allOfFails hdecides⟩
    | true =>
      obtain ⟨more, hmore⟩ := exists_decides_allOf rest hthen
      exact ⟨decisions ++ more, .allOfGoesOn hdecides hmore⟩

theorem exists_decides_anyOf : ∀ (tests : List Test) {s t : State} {holds : Bool},
    exec (Test.evaluateAny tests) e s = (.ok holds, t) →
      ∃ decisions, Decides e (.anyOf tests) s decisions holds t
  | [], s, t, holds, h => by
    rw [Test.evaluateAny, exec_pure] at h
    cases h
    exact ⟨[], .anyOfNone⟩
  | test :: rest, s, t, holds, h => by
    rw [Test.evaluateAny] at h
    obtain ⟨b, u, htest, hthen⟩ := exec_bind_eq_ok_iff.mp h
    obtain ⟨decisions, hdecides⟩ := exists_decides test htest
    cases b with
    | true =>
      cases hthen
      exact ⟨decisions, .anyOfHolds hdecides⟩
    | false =>
      obtain ⟨more, hmore⟩ := exists_decides_anyOf rest hthen
      exact ⟨decisions ++ more, .anyOfGoesOn hdecides hmore⟩

end

/-- The rules and the functions say the same of a test that does not break off. -/
theorem exec_evaluate_eq_ok_iff {test : Test} {s t : State} {holds : Bool} :
    exec test.evaluate e s = (.ok holds, t) ↔ ∃ decisions, Decides e test s decisions holds t :=
  ⟨exists_decides test, fun ⟨_, h⟩ => h.exec_evaluate⟩

/-! ## Captures -/

namespace Decision

/-- Whether a glob was found. -/
def isMatch (d : Decision) : Bool :=
  d.holds && d.test.keys?.any fun k => k.matchType = .glob

/-- The groups are those of the first value and key that match, both as they expand in the state in
which the test was decided. -/
def Finds (e : Surroundings) (d : Decision) (groups : List Text) : Prop :=
  ∃ k values pair, d.test.keys? = some k ∧ d.test.valuesIn e d.state.store = .ok values ∧
    k.FirstPair (values ×ˢ k.keys.map (e.expanded d.state.store)) pair groups

end Decision

/-- The captures after some decisions, if there were others before: the first nine groups of the last
glob that was found, or the old captures if none was. -/
inductive CapturesAfter (e : Surroundings) (old : List Text) (decisions : List Decision) :
    List Text → Prop where
  | unmatched (hnone : ∀ d ∈ decisions, d.isMatch = false) : CapturesAfter e old decisions old
  | matched {before after : List Decision} {d : Decision} {groups : List Text}
      (hplace : decisions = before ++ d :: after) (hmatch : d.isMatch = true)
      (hlast : ∀ other ∈ after, other.isMatch = false) (hfinds : d.Finds e groups) :
      CapturesAfter e old decisions (groups.take 9)

theorem CapturesAfter.append {old between new : List Text} {decisions more : List Decision}
    (h : CapturesAfter e old decisions between) (hmore : CapturesAfter e between more new) :
    CapturesAfter e old (decisions ++ more) new := by
  -- a later match hides the earlier ones; without one the earlier captures are still there
  cases hmore with
  | matched hplace hmatch hlast hfinds =>
    rw [hplace, ← List.append_assoc]
    exact .matched rfl hmatch hlast hfinds
  | unmatched hnoneMore =>
    cases h with
    | unmatched hnone => exact .unmatched (List.forall_mem_append.mpr ⟨hnone, hnoneMore⟩)
    | matched hplace hmatch hlast hfinds =>
      rw [hplace, List.append_assoc, List.cons_append]
      exact .matched rfl hmatch (List.forall_mem_append.mpr ⟨hlast, hnoneMore⟩) hfinds

/-- A test without keys leaves the state as it is, unless it is made of other tests. -/
theorem state_of_exec_of_no_keys {test : Test} {s t : State} {holds : Bool}
    (hsingle : test.isCompound = false) (hkeys : test.keys? = none)
    (h : exec test.evaluate e s = (.ok holds, t)) : t = s := by
  cases test with
  | constant b =>
    rw [Test.evaluate, exec_pure] at h
    cases h
    rfl
  | present names =>
    rw [Test.exec_present] at h
    exact (congrArg Prod.snd h).symm
  | allOf | anyOf | negation => cases hsingle
  | header | address | string => cases hkeys

/-- A single test leaves the groups of the glob that it finds, if it finds one. -/
theorem capturesAfter_single (hon : e.variablesEnabled = true) {test : Test} {s t : State}
    {holds : Bool} (hsingle : test.isCompound = false)
    (h : exec test.evaluate e s = (.ok holds, t)) :
    CapturesAfter e s.store.captures [⟨test, s, holds⟩] t.store.captures := by
  cases hkeys : test.keys? with
  | none =>
    rw [state_of_exec_of_no_keys hsingle hkeys h]
    refine .unmatched (List.forall_mem_singleton.mpr ?_)
    simp [Decision.isMatch, hkeys]
  | some k =>
    obtain ⟨values, answer, hvalues, hanswer, rfl, rfl⟩ := (Test.exec_eq_ok_iff hkeys).mp h
    cases answer with
    | none => exact .unmatched (List.forall_mem_singleton.mpr rfl)
    | some groups =>
      show CapturesAfter _ _ _ (s.matched e k.matchType groups).store.captures
      rw [State.store_matched]
      -- other match types find something too, but keep no groups
      by_cases hglob : k.matchType = .glob
      · rw [if_pos hglob, hon]
        obtain ⟨pair, hfirst⟩ := Keys.firstMatch_eq_some_iff.mp hanswer
        have hmatch : Decision.isMatch ⟨test, s, true⟩ = true := by
          simp [Decision.isMatch, hkeys, hglob]
        have hplace : [⟨test, s, true⟩] = ([] : List Decision) ++ [⟨test, s, true⟩] := rfl
        exact .matched hplace hmatch (List.forall_mem_nil _) ⟨k, values, pair, hkeys, hvalues, hfirst⟩
      · rw [if_neg hglob]
        refine .unmatched (List.forall_mem_singleton.mpr ?_)
        simp [Decision.isMatch, hkeys, hglob]

theorem Decides.capturesAfter (hon : e.variablesEnabled = true) {test : Test} {s t : State}
    {decisions : List Decision} {holds : Bool} (h : Decides e test s decisions holds t) :
    CapturesAfter e s.store.captures decisions t.store.captures := by
  -- a negation changes the answer and nothing else
  induction h with
  | single hsingle h => exact capturesAfter_single hon hsingle h
  | negation _ ih | allOfFails _ ih | anyOfHolds _ ih => exact ih
  | allOfNone | anyOfNone => exact .unmatched (List.forall_mem_nil _)
  | allOfGoesOn _ _ ih ihrest | anyOfGoesOn _ _ ih ihrest => exact ih.append ihrest

end Delivery

namespace Test

open Delivery Run

/-- A test leaves bindings and outcome as they were. Deciding it is deciding some of the tests in it,
from the left, and the captures that it leaves while variables are enabled are the first nine groups of
the last glob that was found then, or those that were there before if none was. It does not matter
whether the test that found the glob is negated, or stands among others that fail after it. -/
theorem evaluate_keeps_last_match {e : Surroundings} (hon : e.variablesEnabled = true) {test : Test}
    {s t : State} {holds : Bool} (h : exec test.evaluate e s = (.ok holds, t)) :
    t.store.bindings = s.store.bindings ∧ t.outcome = s.outcome ∧
      (∃ decisions, Decides e test s decisions holds t) ∧
      ∀ decisions, Decides e test s decisions holds t →
        CapturesAfter e s.store.captures decisions t.store.captures :=
  ⟨(kept_of_exec h).1, (kept_of_exec h).2, exec_evaluate_eq_ok_iff.mp h,
    fun _ hdecides => hdecides.capturesAfter hon⟩

/-- The first glob is found under a negation, the second one among tests of which a later one fails,
and the third one is not found. The second one looks at the captures of the first. -/
theorem evaluate_keeps_last_match_nested :
    let first : Test := .string ⟨["?b*"], .glob, .octet⟩ ["abc"]
    let second : Test := .string ⟨["*$\x7b2\x7d"], .glob, .octet⟩ ["x$\x7b1\x7d$\x7b2\x7d"]
    let third : Test := .string ⟨["z*"], .glob, .octet⟩ ["y"]
    let test : Test := .anyOf [.negation first, .allOf [second, .constant false], third]
    let e : Surroundings := ⟨⟨[]⟩, true⟩
    let s : State := ⟨Store.empty.bind "name" "value", {}, .empty⟩
    e.variablesEnabled = true ∧ ∃ t decisions, exec test.evaluate e s = (.ok false, t) ∧
      t.store.bindings = s.store.bindings ∧ t.outcome = s.outcome ∧
      Decides e test s decisions false t ∧ CapturesAfter e [] decisions t.store.captures ∧
      t.store.captures = ["xa"] := by
  intro first second third test e s
  have hexec : exec test.evaluate e s = (.ok false, (exec test.evaluate e s).2) := by cbv
  obtain ⟨hbindings, houtcome, ⟨decisions, hdecides⟩, hcaptures⟩ :=
    evaluate_keeps_last_match rfl hexec
  exact ⟨rfl, _, decisions, hexec, hbindings, houtcome, hdecides, hcaptures decisions hdecides, by cbv⟩

end Test

end MailFilter
