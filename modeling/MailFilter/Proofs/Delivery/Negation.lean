import MailFilter.Proofs.Delivery.Captures

/-!
# Negated tests

Tests of a list are decided from the left until the answer is known, and each of them may replace
the captures that the next one looks at, or break off. A negation may nevertheless be moved from a
list to the tests in it: the answer or the failure is the same, and so is the state at that point.

- `Test.evaluate_allOf`, `Test.evaluate_anyOf`, `Test.evaluate_negation`: tests that are made of other
  tests, as steps of a run.
- `Test.evaluate_negation_allOf`, `Test.evaluate_negation_anyOf`: a negation moved by one level.
- `Test.pushed`: negations moved all the way down to the tests that are made of no others.
- `Test.evaluate_allOf_append`, `Test.evaluate_anyOf_append`: a list of tests cut into two.
- `Test.evaluate_list_laws`: these laws together, for a run that breaks off as well.
-/

namespace MailFilter

open Delivery Run

namespace Test

variable {tests : List Test}

/-! ## Answers of steps -/

section Answers

variable {m : Type → Type} [Monad m] [LawfulMonad m] {α : Type}

/-- A step of which the answer is turned round twice is the step itself. -/
theorem not_map_not_map (r : m Bool) : (! ·) <$> (! ·) <$> r = r := by
  rw [← comp_map]
  exact (congrArg (· <$> r) (funext Bool.not_not)).trans (id_map r)

/-- Some step of a list answers yes exactly if not all of them answer no. -/
theorem anyM_eq_not_allM_not (p : α → m Bool) (as : List α) :
    as.anyM p = (! ·) <$> as.allM fun a => (! ·) <$> p a := by
  rw [List.allM_eq_not_anyM_not, not_map_not_map]
  exact congrArg (as.anyM ·) (funext fun a => (not_map_not_map (p a)).symm)

/-- All steps of two lists answer yes if those of the first one do, and then those of the second. -/
theorem allM_append (p : α → m Bool) (first second : List α) :
    (first ++ second).allM p = do if ← first.allM p then second.allM p else return false := by
  induction first with
  | nil => rw [List.nil_append, List.allM_nil, pure_bind, if_pos rfl]
  | cons a first ih =>
    rw [List.cons_append, List.allM_cons, List.allM_cons, ih, bind_assoc]
    refine congrArg (p a >>= ·) (funext fun answer => ?_)
    cases answer <;> simp

/-- Some step of two lists answers yes if one of the first does, and else if one of the second does.
-/
theorem anyM_append (p : α → m Bool) (first second : List α) :
    (first ++ second).anyM p =
      (do if ← first.anyM p then return true else second.anyM p) := by
  induction first with
  | nil =>
    rw [List.nil_append, List.anyM_nil, pure_bind]
    rfl
  | cons a first ih =>
    rw [List.cons_append, List.anyM_cons, List.anyM_cons, ih, bind_assoc]
    refine congrArg (p a >>= ·) (funext fun answer => ?_)
    cases answer <;> simp

/-- Asking for the answer and giving it back changes nothing. -/
theorem bind_ite_pure (r : m Bool) : (do if ← r then return true else return false) = r := by
  refine Eq.trans ?_ (bind_pure r)
  refine congrArg (r >>= ·) (funext fun answer => ?_)
  cases answer <;> rfl

end Answers

/-! ## Tests as steps -/

/-- A negation turns the answer of its test round. -/
theorem evaluate_negation (test : Test) : evaluate (.negation test) = (! ·) <$> evaluate test := by
  rw [evaluate, map_eq_pure_bind]

/-- All tests are asked in order, up to the first that does not hold. -/
theorem evaluate_allOf (tests : List Test) : evaluate (.allOf tests) = tests.allM evaluate := by
  rw [evaluate]
  induction tests with
  | nil => rw [evaluateAll, List.allM_nil]
  | cons test rest ih =>
    rw [evaluateAll, List.allM_cons, ih]

/-- Tests are asked in order, up to the first that holds. -/
theorem evaluate_anyOf (tests : List Test) : evaluate (.anyOf tests) = tests.anyM evaluate := by
  rw [evaluate]
  induction tests with
  | nil => rw [evaluateAny, List.anyM_nil]
  | cons test rest ih =>
    rw [evaluateAny, List.anyM_cons, ih]

/-! ## Negations of lists -/

/-- Tests that stand for others are decided like them. -/
theorem evaluate_allOf_map {f : Test → Test} {g : Test → Run Bool}
    (h : ∀ test ∈ tests, evaluate (f test) = g test) :
    evaluate (.allOf (tests.map f)) = tests.allM g := by
  rw [evaluate_allOf]
  induction tests with
  | nil => rfl
  | cons test rest ih =>
    obtain ⟨hfirst, hrest⟩ := List.forall_mem_cons.mp h
    rw [List.map_cons, List.allM_cons, List.allM_cons, hfirst, ih hrest]

/-- The same of lists of which one test has to hold. -/
theorem evaluate_anyOf_map {f : Test → Test} {g : Test → Run Bool}
    (h : ∀ test ∈ tests, evaluate (f test) = g test) :
    evaluate (.anyOf (tests.map f)) = tests.anyM g := by
  rw [evaluate_anyOf]
  induction tests with
  | nil => rfl
  | cons test rest ih =>
    obtain ⟨hfirst, hrest⟩ := List.forall_mem_cons.mp h
    rw [List.map_cons, List.anyM_cons, List.anyM_cons, hfirst, ih hrest]

/-- Tests that answer the opposite, of which any may hold. -/
theorem evaluate_anyOf_opposite {f : Test → Test}
    (h : ∀ test ∈ tests, evaluate (f test) = evaluate (.negation test)) :
    evaluate (.anyOf (tests.map f)) = evaluate (.negation (.allOf tests)) := by
  rw [evaluate_anyOf_map h, evaluate_negation, evaluate_allOf, List.allM_eq_not_anyM_not,
    not_map_not_map]
  exact congrArg (tests.anyM ·) (funext evaluate_negation)

/-- Tests that answer the opposite, all of which must hold. -/
theorem evaluate_allOf_opposite {f : Test → Test}
    (h : ∀ test ∈ tests, evaluate (f test) = evaluate (.negation test)) :
    evaluate (.allOf (tests.map f)) = evaluate (.negation (.anyOf tests)) := by
  rw [evaluate_allOf_map h, evaluate_negation, evaluate_anyOf, anyM_eq_not_allM_not,
    not_map_not_map]
  exact congrArg (tests.allM ·) (funext evaluate_negation)

/-- Not all tests hold: the opposite of one of them does. -/
theorem evaluate_negation_allOf (tests : List Test) :
    evaluate (.negation (.allOf tests)) = evaluate (.anyOf (tests.map .negation)) :=
  (evaluate_anyOf_opposite fun _ _ => rfl).symm

/-- None of several tests holds: the opposite of each of them does. -/
theorem evaluate_negation_anyOf (tests : List Test) :
    evaluate (.negation (.anyOf tests)) = evaluate (.allOf (tests.map .negation)) :=
  (evaluate_allOf_opposite fun _ _ => rfl).symm

/-! ## Negations at any depth -/

mutual

/-- The test, or its opposite, with every negation moved down to a test that is made of no others. -/
def pushed (opposite : Bool) : Test → Test
  | .allOf tests =>
    if opposite then .anyOf (pushedEach opposite tests) else .allOf (pushedEach opposite tests)
  | .anyOf tests =>
    if opposite then .allOf (pushedEach opposite tests) else .anyOf (pushedEach opposite tests)
  | .negation test => pushed (!opposite) test
  | test => if opposite then .negation test else test

/-- The same of each test of a list. -/
def pushedEach (opposite : Bool) : List Test → List Test
  | [] => []
  | test :: rest => pushed opposite test :: pushedEach opposite rest

end

mutual

/-- Whether negations stand before tests only that are made of no others. -/
def negatesSingle : Test → Bool
  | .allOf tests | .anyOf tests => negatesSingleEach tests
  | .negation test => !test.isCompound
  | _ => true

/-- The same of each test of a list. -/
def negatesSingleEach : List Test → Bool
  | [] => true
  | test :: rest => negatesSingle test && negatesSingleEach rest

end

/-- A list is gone through test by test. -/
theorem pushedEach_eq_map (opposite : Bool) (tests : List Test) :
    pushedEach opposite tests = tests.map (pushed opposite) := by
  induction tests with
  | nil => rfl
  | cons test rest ih => rw [pushedEach, List.map_cons, ih]

mutual

/-- Moved down, negations stand before tests that are made of no others. -/
theorem negatesSingle_pushed (opposite : Bool) :
    ∀ test : Test, (pushed opposite test).negatesSingle = true
  | .constant _ => by cases opposite <;> rfl
  | .present _ => by cases opposite <;> rfl
  | .header _ _ => by cases opposite <;> rfl
  | .address _ _ _ => by cases opposite <;> rfl
  | .string _ _ => by cases opposite <;> rfl
  | .negation test => by
    rw [pushed]
    exact negatesSingle_pushed (!opposite) test
  | .allOf tests => by
    have htests := negatesSingleEach_pushedEach opposite tests
    cases opposite <;> exact htests
  | .anyOf tests => by
    have htests := negatesSingleEach_pushedEach opposite tests
    cases opposite <;> exact htests

theorem negatesSingleEach_pushedEach (opposite : Bool) :
    ∀ tests : List Test, negatesSingleEach (pushedEach opposite tests) = true
  | [] => rfl
  | test :: rest => by
    rw [pushedEach, negatesSingleEach, negatesSingle_pushed opposite test,
      negatesSingleEach_pushedEach opposite rest]
    rfl

end

mutual

/-- A test with its negations moved down answers as it did, or the opposite. The induction is over
the tree of tests, and a negation on the way changes which of the two is asked for. -/
theorem evaluate_pushed (opposite : Bool) : ∀ test : Test,
    evaluate (pushed opposite test) = evaluate (if opposite then .negation test else test)
  | .constant _ => by cases opposite <;> rfl
  | .present _ => by cases opposite <;> rfl
  | .header _ _ => by cases opposite <;> rfl
  | .address _ _ _ => by cases opposite <;> rfl
  | .string _ _ => by cases opposite <;> rfl
  | .negation test => by
    rw [pushed, evaluate_pushed (!opposite) test]
    -- two negations on top of each other have met
    cases opposite with
    | false => rfl
    | true =>
      show evaluate test = evaluate (.negation (.negation test))
      rw [evaluate_negation, evaluate_negation, not_map_not_map]
  | .allOf tests => by
    have htests := evaluate_pushedEach opposite tests
    cases opposite with
    | false =>
      show evaluate (.allOf (pushedEach false tests)) = evaluate (.allOf tests)
      rw [pushedEach_eq_map, evaluate_allOf_map htests, evaluate_allOf]
      rfl
    | true =>
      show evaluate (.anyOf (pushedEach true tests)) = evaluate (.negation (.allOf tests))
      rw [pushedEach_eq_map, evaluate_anyOf_opposite htests]
  | .anyOf tests => by
    have htests := evaluate_pushedEach opposite tests
    cases opposite with
    | false =>
      show evaluate (.anyOf (pushedEach false tests)) = evaluate (.anyOf tests)
      rw [pushedEach_eq_map, evaluate_anyOf_map htests, evaluate_anyOf]
      rfl
    | true =>
      show evaluate (.allOf (pushedEach true tests)) = evaluate (.negation (.anyOf tests))
      rw [pushedEach_eq_map, evaluate_allOf_opposite htests]

theorem evaluate_pushedEach (opposite : Bool) : ∀ tests : List Test, ∀ test ∈ tests,
    evaluate (pushed opposite test) = evaluate (if opposite then .negation test else test)
  | [] => List.forall_mem_nil _
  | test :: rest =>
    List.forall_mem_cons.mpr ⟨evaluate_pushed opposite test, evaluate_pushedEach opposite rest⟩

end

/-! ## Lists cut into two -/

/-- A list of tests that all have to hold is cut into two. -/
theorem evaluate_allOf_append (first second : List Test) :
    evaluate (.allOf (first ++ second)) = evaluate (.allOf [.allOf first, .allOf second]) := by
  rw [evaluate_allOf, allM_append, evaluate_allOf, List.allM_cons, List.allM_cons, List.allM_nil,
    bind_ite_pure, evaluate_allOf, evaluate_allOf]

/-- So is a list of tests of which one has to hold. -/
theorem evaluate_anyOf_append (first second : List Test) :
    evaluate (.anyOf (first ++ second)) = evaluate (.anyOf [.anyOf first, .anyOf second]) := by
  rw [evaluate_anyOf, anyM_append, evaluate_anyOf, List.anyM_cons, List.anyM_cons, List.anyM_nil,
    bind_ite_pure, evaluate_anyOf, evaluate_anyOf]

/-- Not all tests of a list hold exactly if the opposite of any of them holds, and none of them holds
exactly if the opposite of each of them does; a list of tests may be cut into two; and negations may
be moved down to the tests that are made of no others, at any depth. In each case both tests give the
same answer, or break off with the same failure, and end in the same state. -/
theorem evaluate_list_laws (tests more : List Test) (e : Surroundings) (s : State) :
    exec (evaluate (.negation (.allOf tests))) e s =
        exec (evaluate (.anyOf (tests.map .negation))) e s ∧
      exec (evaluate (.negation (.anyOf tests))) e s =
        exec (evaluate (.allOf (tests.map .negation))) e s ∧
      exec (evaluate (.allOf (tests ++ more))) e s =
        exec (evaluate (.allOf [.allOf tests, .allOf more])) e s ∧
      exec (evaluate (.anyOf (tests ++ more))) e s =
        exec (evaluate (.anyOf [.anyOf tests, .anyOf more])) e s ∧
      ∀ test : Test, (pushed false test).negatesSingle = true ∧
        exec (evaluate (pushed false test)) e s = exec (evaluate test) e s := by
  refine ⟨by rw [evaluate_negation_allOf], by rw [evaluate_negation_anyOf],
    by rw [evaluate_allOf_append], by rw [evaluate_anyOf_append], fun test => ?_⟩
  refine ⟨negatesSingle_pushed false test, ?_⟩
  rw [evaluate_pushed]
  rfl

end Test

end MailFilter
