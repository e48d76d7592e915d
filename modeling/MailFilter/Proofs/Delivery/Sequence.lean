import Mathlib
import MailFilter.Proofs.Delivery.Steps

/-!
# Blocks one after another

Running a block and then another one is running both of them in one block, until `stop` is
performed. Then the run is over, on every level of the blocks around it.

- `Command.runAll_append`: a block that consists of two.
- `Outcome.flag_recordAll`: which actions have set a flag of an outcome.
- `Command.stop_is_final`: what comes after `stop` makes no difference, and the outcome says that
  the script has ended early exactly if `stop` has been performed.

A block that breaks off is not covered: what follows it is not run either, but nothing has stopped.
-/

namespace MailFilter

namespace Outcome

theorem stopped_record (o : Outcome) (a : Action) :
    (o.record a).stopped = (o.stopped || decide (a = .stop)) := by
  cases a <;> simp [record, addTag, apply_ite]

/-- A flag that one action sets and no action clears. -/
theorem flag_recordAll {flag : Outcome → Bool} {a : Action}
    (h : ∀ o b, flag (o.record b) = (flag o || decide (b = a))) (o : Outcome)
    (actions : List Action) :
    flag (o.recordAll actions) = true ↔ flag o = true ∨ a ∈ actions := by
  induction actions generalizing o with
  | nil => simp [recordAll]
  | cons b rest ih =>
    rw [recordAll, List.foldl_cons]
    refine (ih (o.record b)).trans ?_
    rw [h, Bool.or_eq_true, decide_eq_true_eq, or_assoc, List.mem_cons, @eq_comm _ a b]

end Outcome

open Delivery Run

namespace Engine

/-- What is known of the outcome of a delivery from any list of what it performs. -/
theorem outcome_eq_of_performs {settings : VariablesSettings} {script : Script} {message : Message}
    {account : Option Text} {journal : Journal} {outcome : Outcome} {steps : List Step}
    (h : (deliver settings script message account journal).1 = .ok outcome)
    (hsteps : Performs settings script message account journal steps) :
    ({} : Outcome).recordAll (actionsOf steps) = outcome := by
  have hsame := deliver_eq_ok_iff_performs.mpr ⟨steps, hsteps, rfl⟩
  rw [h] at hsame
  exact (Except.ok.inj hsame).symm

end Engine

namespace Command

/-- The second block is run if the first one does not end the script. -/
theorem runAll_append (first rest : List Command) :
    runAll (first ++ rest) = do
      if ← runAll first then runAll rest else return false := by
  induction first with
  | nil => rw [List.nil_append, runAll, pure_bind, if_pos rfl]
  | cons c first ih =>
    rw [List.cons_append, runAll, runAll, ih, bind_assoc]
    -- the answer of the first command decides about both blocks alike
    refine congrArg (run c >>= ·) (funext fun goesOn => ?_)
    cases goesOn with
    | true => rfl
    | false => rfl

/-- Where the first block ends the script, the second one makes no difference; else it is run in the
state that the first one leaves. A block ends the script exactly if it performs `stop`, at any
depth. Nothing is performed after it, so the run ends in the state to which the steps before it have
led. The outcome of a delivery is marked as stopped in these cases alone. -/
theorem stop_is_final (first rest : List Command) (e : Surroundings) (s : State) :
    (∀ t, exec (runAll first) e s = (.ok false, t) →
      exec (runAll (first ++ rest)) e s = (.ok false, t)) ∧
    (∀ t, exec (runAll first) e s = (.ok true, t) →
      exec (runAll (first ++ rest)) e s = exec (runAll rest) e t) ∧
    (∀ goesOn t, exec (runAll first) e s = (.ok goesOn, t) ↔
      ∃ steps, Performs e first s steps goesOn t) ∧
    (∀ steps goesOn t, Performs e first s steps goesOn t →
      (.action .stop ∈ steps ↔ goesOn = false) ∧
      ∀ before after, steps = before ++ .action .stop :: after →
        after = [] ∧ t = before.foldl (Step.after e) s) ∧
    ∀ settings script message account journal outcome,
      (Engine.deliver settings script message account journal).1 = .ok outcome →
        (∃ steps, Engine.Performs settings script message account journal steps) ∧
        ∀ steps, Engine.Performs settings script message account journal steps →
          (outcome.stopped = true ↔ .action .stop ∈ steps) := by
  refine ⟨fun t h => ?_, fun t h => ?_, fun goesOn t => exec_runAll_eq_ok_iff, ?_, ?_⟩
  · rw [runAll_append, exec_bind_of_ok h]
    rfl
  · rw [runAll_append, exec_bind_of_ok h, if_pos rfl]
  · -- `stop` is the last step, so what stands behind it in the list is nothing
    intro steps goesOn t h
    refine ⟨h.stopsLast.mem_iff, ?_⟩
    rintro before after rfl
    obtain rfl := h.stopsLast.eq_nil
    refine ⟨rfl, ?_⟩
    rw [← h.state_eq, List.foldl_append]
    rfl
  · intro settings script message account journal outcome h
    obtain ⟨steps, hsteps, -⟩ := Engine.deliver_eq_ok_iff_performs.mp h
    refine ⟨⟨steps, hsteps⟩, fun steps hsteps => ?_⟩
    rw [← Engine.outcome_eq_of_performs h hsteps, Outcome.flag_recordAll Outcome.stopped_record,
      mem_actionsOf_iff]
    exact or_iff_right Bool.false_ne_true

/-- `stop` stands in a branch, with commands after it in the branch, after the branches and in the
next block. -/
theorem stop_is_final_nested :
    let test : Test := .string ⟨["*"], .glob, .octet⟩ ["x"]
    let first : List Command :=
      [.choice [(.constant false, []),
        (test, [.action (.tag "a"), .action .stop, .action (.tag "b")])] [.action .keep],
        .action .discard]
    let rest : List Command := [.action (.fileInto "later")]
    let tagged : List Command := [.action (.tag "c")]
    let e : Surroundings := ⟨⟨[]⟩, true⟩
    let s : State := ⟨.empty, {}, .empty⟩
    exec (runAll (first ++ rest)) e s = (.ok false, (exec (runAll first) e s).2) ∧
      (exec (runAll (first ++ rest)) e s).2.outcome = { tags := ["a"] } ∧
      exec (runAll (tagged ++ first)) e s = exec (runAll first) e (exec (runAll tagged) e s).2 ∧
      (∃ steps, Performs e first s steps false (exec (runAll first) e s).2 ∧
        .action .stop ∈ steps) ∧
      ∃ steps, Engine.Performs {} ⟨"", [], first ++ rest⟩ ⟨[]⟩ none .empty steps ∧
        .action .stop ∈ steps := by
  intro test first rest tagged e s
  have hstops : exec (runAll first) e s = (.ok false, (exec (runAll first) e s).2) := by cbv
  have hgoesOn : exec (runAll tagged) e s = (.ok true, (exec (runAll tagged) e s).2) := by cbv
  have hdelivered : (Engine.deliver {} ⟨"", [], first ++ rest⟩ ⟨[]⟩ none .empty).1 =
      .ok { tags := ["a"], stopped := true } := by cbv
  obtain ⟨hfinal, -, hperforms, hlast, hengine⟩ := stop_is_final first rest e s
  have hwhole := hfinal _ hstops
  refine ⟨hwhole, ?_, (stop_is_final tagged first e s).2.1 _ hgoesOn, ?_, ?_⟩
  · rw [hwhole]
    cbv
  · obtain ⟨steps, hsteps⟩ := (hperforms _ _).mp hstops
    exact ⟨steps, hsteps, (hlast steps false _ hsteps).1.mpr rfl⟩
  · obtain ⟨⟨steps, hsteps⟩, hstopped⟩ := hengine _ _ _ _ _ _ hdelivered
    exact ⟨steps, hsteps, (hstopped steps hsteps).mp rfl⟩

end Command

end MailFilter
