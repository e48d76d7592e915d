import MailFilter.Proofs.Delivery.Captures

/-!
# Branches

The tests of branches are decided in order until one holds, and then its block is run; if none
holds, the last block is run. A choice between many branches is therefore made of choices between two
blocks, each of which stands in the last block of the one before it.

- `Command.nested`: branches one inside the other.
- `Command.run_choice_cons`, `Command.run_choice_eq_nested`: both ways to write branches do the
  same.
- `FailInTurn`: tests that are decided one after another and fail.
- `FailInTurn.exec_choice`: branches of which the tests fail may be passed over.
- `exists_failInTurn`: how far the tests of branches are decided.
- `Command.choice_eq_nested`: branches do what nested branches do, and run one block at most.

A test that breaks off ends the run there, so none of the blocks is run.
-/

namespace MailFilter

open Delivery Run

namespace Command

/-- Branches one inside the other: what follows the first one is run if its test fails. -/
def nested (otherwise : List Command) : List (Test × List Command) → List Command
  | [] => otherwise
  | branch :: rest => [.choice [branch] (nested otherwise rest)]

theorem runAll_singleton (c : Command) : runAll [c] = run c := by
  refine Eq.trans ?_ (bind_pure (run c))
  rw [runAll]
  refine congrArg (run c >>= ·) (funext fun goesOn => ?_)
  cases goesOn with
  | true => rfl
  | false => rfl

/-- What follows the first branch may be put into a block of its own. -/
theorem run_choice_cons (branch : Test × List Command) (rest : List (Test × List Command))
    (otherwise : List Command) :
    run (.choice (branch :: rest) otherwise) = run (.choice [branch] [.choice rest otherwise]) := by
  rw [run, run, runChoice, runChoice, runChoice, runAll_singleton, run]

/-- Blocks that do the same may stand behind the last branch. -/
theorem run_choice_congr (branches : List (Test × List Command)) {first second : List Command}
    (h : runAll first = runAll second) :
    run (.choice branches first) = run (.choice branches second) := by
  rw [run, run, h]

theorem run_choice_eq_nested (branches : List (Test × List Command)) (otherwise : List Command) :
    run (.choice branches otherwise) = runAll (nested otherwise branches) := by
  induction branches with
  | nil => rw [run, runChoice, nested]
  | cons branch rest ih =>
    rw [run_choice_cons, nested, runAll_singleton]
    exact run_choice_congr [branch] (by rw [runAll_singleton, ih])

end Command

namespace Delivery

/-- The tests of branches fail, each of them in the state in which the one before it ends. -/
inductive FailInTurn (e : Surroundings) : List (Test × List Command) → State → State → Prop where
  | nil {s : State} : FailInTurn e [] s s
  | cons {test : Test} {block : List Command} {rest : List (Test × List Command)} {s u t : State}
      (h : exec test.evaluate e s = (.ok false, u)) (hrest : FailInTurn e rest u t) :
      FailInTurn e ((test, block) :: rest) s t

variable {e : Surroundings}

/-- Branches of which the tests fail may be passed over. -/
theorem FailInTurn.exec_choice {before : List (Test × List Command)} {s u : State}
    (h : FailInTurn e before s u) (after : List (Test × List Command)) (otherwise : List Command) :
    exec (Command.run (.choice (before ++ after) otherwise)) e s =
      exec (Command.run (.choice after otherwise)) e u := by
  induction h with
  | nil => rfl
  | cons h _ ih =>
    rw [Command.run] at ih
    rw [List.cons_append, Command.run, Command.runChoice, exec_bind_of_ok h]
    exact ih

/-- The first test that holds settles the matter, whatever comes behind it. -/
theorem FailInTurn.exec_choice_of_holds {before : List (Test × List Command)} {s u v : State}
    (h : FailInTurn e before s u) {test : Test} (htest : exec test.evaluate e u = (.ok true, v))
    (block : List Command) (after : List (Test × List Command)) (otherwise : List Command) :
    exec (Command.run (.choice (before ++ (test, block) :: after) otherwise)) e s =
      exec (Command.runAll block) e v := by
  rw [h.exec_choice, Command.run, Command.runChoice, exec_bind_of_ok htest]
  rfl

/-- So does the first test that breaks off. -/
theorem FailInTurn.exec_choice_of_error {before : List (Test × List Command)} {s u v : State}
    (h : FailInTurn e before s u) {test : Test} {failure : Failure}
    (htest : exec test.evaluate e u = (.error failure, v)) (block : List Command)
    (after : List (Test × List Command)) (otherwise : List Command) :
    exec (Command.run (.choice (before ++ (test, block) :: after) otherwise)) e s =
      (.error failure, v) := by
  rw [h.exec_choice, Command.run, Command.runChoice, exec_bind_of_error htest]

/-- The tests of branches fail up to the last one, or up to one that does not. -/
theorem exists_failInTurn (branches : List (Test × List Command)) (s : State) :
    ∃ before u, FailInTurn e before s u ∧
      (before = branches ∨ ∃ test block after, branches = before ++ (test, block) :: after ∧
        (exec test.evaluate e u).1 ≠ .ok false) := by
  induction branches generalizing s with
  | nil => exact ⟨[], s, .nil, .inl rfl⟩
  | cons branch rest ih =>
    obtain ⟨test, block⟩ := branch
    -- the first test that does not fail ends the list, be it that it holds or breaks off
    by_cases htest : (exec test.evaluate e s).1 = .ok false
    · obtain ⟨before, u, hfail, hend⟩ := ih (exec test.evaluate e s).2
      refine ⟨(test, block) :: before, u, .cons (Prod.ext htest rfl) hfail,
        hend.imp (congrArg _) ?_⟩
      rintro ⟨next, chosen, after, rfl, hnext⟩
      exact ⟨next, chosen, after, rfl, hnext⟩
    · exact ⟨[], s, .nil, .inr ⟨test, block, rest, rfl, htest⟩⟩

/-- Tests that fail in turn are decided like those of a list of which any may hold. -/
theorem FailInTurn.exec_anyOf {before : List (Test × List Command)} {s u : State}
    (h : FailInTurn e before s u) :
    exec (Test.anyOf (before.map Prod.fst)).evaluate e s = (.ok false, u) := by
  induction h with
  | nil => rfl
  | cons h _ ih =>
    rw [Test.evaluate] at ih
    rw [List.map_cons, Test.evaluate, Test.evaluateAny, exec_bind_of_ok h]
    exact ih

end Delivery

namespace Command

/-- Branches do what the first one does with all others in its last block, and so what branches one
inside the other do.
The tests up to some branch fail, each in the state in which the one before it ends. Either these are
all tests, and the last block is run; or the next test holds, and its block is run; or the next test
breaks off, and no block is run. In both of these cases it makes no difference what comes behind that
branch. While variables are enabled the captures that the next test meets are those of the last glob
that the tests before it have found, although they failed. -/
theorem choice_eq_nested (test : Test) (block : List Command) (rest : List (Test × List Command))
    (otherwise : List Command) (e : Surroundings) (s : State) :
    let branches := (test, block) :: rest
    exec (run (.choice branches otherwise)) e s =
        exec (run (.choice [(test, block)] [.choice rest otherwise])) e s ∧
      exec (run (.choice branches otherwise)) e s = exec (runAll (nested otherwise branches)) e s ∧
      ∃ before u, FailInTurn e before s u ∧
        (before = branches ∧
            exec (run (.choice branches otherwise)) e s = exec (runAll otherwise) e u ∨
          ∃ next chosen after, branches = before ++ (next, chosen) :: after ∧
            ((∃ v, exec next.evaluate e u = (.ok true, v) ∧ ∀ others last,
                exec (run (.choice (before ++ (next, chosen) :: others) last)) e s =
                  exec (runAll chosen) e v) ∨
              ∃ failure v, exec next.evaluate e u = (.error failure, v) ∧ ∀ others last,
                exec (run (.choice (before ++ (next, chosen) :: others) last)) e s =
                  (.error failure, v))) ∧
        u.store.bindings = s.store.bindings ∧ u.outcome = s.outcome ∧
        (e.variablesEnabled = true → ∃ decisions,
          Decides e (.anyOf (before.map Prod.fst)) s decisions false u ∧
            CapturesAfter e s.store.captures decisions u.store.captures) := by
  intro branches
  obtain ⟨before, u, hfail, hend⟩ := exists_failInTurn (e := e) branches s
  have hkept := Test.kept_of_exec hfail.exec_anyOf
  refine ⟨by rw [run_choice_cons], by rw [run_choice_eq_nested], before, u, hfail,
    hend.imp (fun hall => ⟨hall, ?_⟩) ?_, hkept.1, hkept.2, fun hon => ?_⟩
  · have hrun := hfail.exec_choice [] otherwise
    rw [List.append_nil, hall] at hrun
    rw [hrun, run, runChoice]
  · rintro ⟨next, chosen, after, hplace, hanswer⟩
    refine ⟨next, chosen, after, hplace, ?_⟩
    -- the next test breaks off or holds; by its choice it does not fail
    rcases hnext : exec next.evaluate e u with ⟨failure | _ | _, v⟩
    · exact .inr ⟨failure, v, rfl, hfail.exec_choice_of_error hnext chosen⟩
    · exact absurd (congrArg Prod.fst hnext) hanswer
    · exact .inl ⟨v, rfl, hfail.exec_choice_of_holds hnext chosen⟩
  · -- the tests that failed are decided like a list of which none holds
    obtain ⟨decisions, hdecides⟩ := exists_decides _ hfail.exec_anyOf
    exact ⟨decisions, hdecides, hdecides.capturesAfter hon⟩

/-- The first test fails, but the glob in it is found, and the second test and its block look at what
it has captured. The third test would break off. -/
theorem choice_eq_nested_captured :
    let first : Test := .negation (.string ⟨["?-*"], .glob, .octet⟩ ["x-y"])
    let second : Test := .string ⟨["y"], .whole, .octet⟩ ["$\x7b2\x7d"]
    let rest : List (Test × List Command) :=
      [(second, [.action (.tag "$\x7b1\x7d"), .action .stop]), (.present ["Subject"], [])]
    let chain : Command := .choice ((first, [.action .discard]) :: rest) [.action .keep]
    let pair : Command := .choice [(first, [.action .discard])] [.choice rest [.action .keep]]
    let e : Surroundings := ⟨⟨[⟨"Subject", .error .unencodable⟩]⟩, true⟩
    let s : State := ⟨.empty, {}, .empty⟩
    exec chain.run e s = exec pair.run e s ∧ (exec chain.run e s).1 = .ok false ∧
      (exec chain.run e s).2.outcome = { tags := ["x"] } ∧
      e.variablesEnabled = true ∧ ∃ before u decisions, FailInTurn e before s u ∧
        CapturesAfter e [] decisions u.store.captures := by
  intro first second rest chain pair e s
  obtain ⟨hnested, -, before, u, hfail, -, -, -, hcaptures⟩ :=
    choice_eq_nested first [.action .discard] rest [.action .keep] e s
  obtain ⟨decisions, -, hafter⟩ := hcaptures rfl
  have hrun : exec chain.run e s = (.ok false, (exec chain.run e s).2) := by
    dsimp only [chain, rest]
    cbv
  have houtcome : (exec chain.run e s).2.outcome = { tags := ["x"] } := by
    dsimp only [chain, rest]
    cbv
  exact ⟨hnested, congrArg Prod.fst hrun, houtcome, rfl, before, u, decisions, hfail, hafter⟩

end Command

end MailFilter
