import MailFilter.Proofs.Delivery.Observation

/-!
# What a run performs

A block performs `set` commands and actions one after another, and decides tests where branches are
to be chosen. Here this is said by rules, apart from the functions that run a script: what a block
performs is the list of its steps, at any depth of the blocks in it.

- `Step`: what is performed, one at a time.
- `Chooses`, `Performs`: the rules for branches and for blocks.
- `exec_runAll_eq_ok_iff`: a block that does not break off ends as the rules say, and only so.
- `Performs.state_eq`: a run changes nothing but what its steps change.
- `Performs.stopsLast`: `stop` is performed last, and only if the script does not go on.
- `Engine.deliver_eq_ok_iff_performs`: the outcome of a delivery is what its actions record, one
  after another.

Nothing is said here of what a run performs before it breaks off.
-/

namespace MailFilter

/-- With another argument an action is `stop` only if it was. -/
theorem Action.withArgument_eq_stop_iff {a : Action} {t : Text} :
    a.withArgument t = .stop ↔ a = .stop := by
  cases a <;> simp [withArgument]

namespace Delivery

open Run

/-- What a run performs. The argument of an action is expanded already. -/
inductive Step where
  | set (c : SetCommand)
  | decide (test : Test) (holds : Bool)
  | action (a : Action)

/-- The block that branches choose in a state: their tests are decided in order until one holds. -/
inductive Chooses (e : Surroundings) : List (Test × List Command) → List Command → State →
    List Step → List Command → State → Prop where
  | otherwise {block : List Command} {s : State} : Chooses e [] block s [] block s
  | here {test : Test} {block : List Command} {branches : List (Test × List Command)}
      {otherwise : List Command} {s t : State} (h : exec test.evaluate e s = (.ok true, t)) :
      Chooses e ((test, block) :: branches) otherwise s [.decide test true] block t
  | later {test : Test} {block : List Command} {branches : List (Test × List Command)}
      {otherwise chosen : List Command} {s u t : State} {steps : List Step}
      (h : exec test.evaluate e s = (.ok false, u))
      (hrest : Chooses e branches otherwise u steps chosen t) :
      Chooses e ((test, block) :: branches) otherwise s (.decide test false :: steps) chosen t

/-- What a block performs from a state on, whether the script goes on after it, and the state in
which it ends. -/
inductive Performs (e : Surroundings) :
    List Command → State → List Step → Bool → State → Prop where
  | nil {s : State} : Performs e [] s [] true s
  | set {c : SetCommand} {rest : List Command} {s u t : State} {steps : List Step} {goesOn : Bool}
      (h : exec c.run e s = (.ok (), u)) (hrest : Performs e rest u steps goesOn t) :
      Performs e (.set c :: rest) s (.set c :: steps) goesOn t
  | action {a : Action} {rest : List Command} {s u t : State} {steps : List Step} {goesOn : Bool}
      (h : exec a.run e s = (.ok true, u)) (hrest : Performs e rest u steps goesOn t) :
      Performs e (.action a :: rest) s
        (.action (a.withArgument (e.expanded s.store a.argument)) :: steps) goesOn t
  | stop {rest : List Command} {s : State} :
      Performs e (.action .stop :: rest) s [.action .stop] false s
  | choice {branches : List (Test × List Command)} {otherwise block rest : List Command}
      {s u v t : State} {tests steps more : List Step} {goesOn : Bool}
      (hchoice : Chooses e branches otherwise s tests block u)
      (hblock : Performs e block u steps true v) (hrest : Performs e rest v more goesOn t) :
      Performs e (.choice branches otherwise :: rest) s (tests ++ steps ++ more) goesOn t
  | stopWithin {branches : List (Test × List Command)} {otherwise block rest : List Command}
      {s u t : State} {tests steps : List Step}
      (hchoice : Chooses e branches otherwise s tests block u)
      (hblock : Performs e block u steps false t) :
      Performs e (.choice branches otherwise :: rest) s (tests ++ steps) false t

variable {e : Surroundings}

/-- A choice runs as the block that is chosen, from the state in which its test was decided. -/
theorem Chooses.exec_runChoice {branches : List (Test × List Command)}
    {otherwise chosen : List Command} {s t : State} {steps : List Step}
    (h : Chooses e branches otherwise s steps chosen t) :
    exec (Command.runChoice (Command.runAll otherwise) branches) e s =
      exec (Command.runAll chosen) e t := by
  induction h with
  | otherwise => rw [Command.runChoice]
  | here h =>
    rw [Command.runChoice, exec_bind_of_ok h]
    rfl
  | later h _ ih =>
    rw [Command.runChoice, exec_bind_of_ok h]
    exact ih

/-- What the rules say of a block is what running it does. -/
theorem Performs.exec_runAll {block : List Command} {s t : State} {steps : List Step}
    {goesOn : Bool} (h : Performs e block s steps goesOn t) :
    exec (Command.runAll block) e s = (.ok goesOn, t) := by
  induction h with
  | nil => rw [Command.runAll, exec_pure]
  | set h _ ih =>
    rw [Command.runAll, Command.run, bind_assoc, exec_bind_of_ok h]
    exact ih
  | action h _ ih =>
    rw [Command.runAll, Command.run, exec_bind_of_ok h]
    exact ih
  | stop => rfl
  | choice hchoice _ _ ihblock ihrest =>
    rw [Command.runAll, Command.run, exec_bind_of_ok (hchoice.exec_runChoice.trans ihblock)]
    exact ihrest
  | stopWithin hchoice _ ih =>
    rw [Command.runAll, Command.run, exec_bind_of_ok (hchoice.exec_runChoice.trans ih)]
    rfl

/-- An action after which the script goes on. -/
theorem Action.ne_stop_of_exec_run {a : Action} {s t : State}
    (h : exec a.run e s = (.ok true, t)) : a ≠ .stop := by
  rintro rfl
  cases h

/-- Of the actions `stop` alone ends a script. -/
theorem Action.eq_stop_of_exec_run {a : Action} {s t : State}
    (h : exec a.run e s = (.ok false, t)) : a = .stop ∧ s = t := by
  rw [Action.exec_run] at h
  split at h
  · next hstop => exact ⟨hstop, congrArg Prod.snd h⟩
  · cases h

mutual

/-- A block that does not break off has steps, by induction on its commands and the branches in
them. -/
theorem exists_performs : ∀ (block : List Command) {s t : State} {goesOn : Bool},
    exec (Command.runAll block) e s = (.ok goesOn, t) → ∃ steps, Performs e block s steps goesOn t
  | [], s, t, goesOn, h => by
    rw [Command.runAll, exec_pure] at h
    cases h
    exact ⟨[], .nil⟩
  | .set c :: rest, s, t, goesOn, h => by
    rw [Command.runAll, Command.run, bind_assoc] at h
    obtain ⟨_, u, hset, hrest⟩ := exec_bind_eq_ok_iff.mp h
    obtain ⟨steps, hsteps⟩ := exists_performs rest hrest
    exact ⟨_, .set hset hsteps⟩
  | .action a :: rest, s, t, goesOn, h => by
    rw [Command.runAll, Command.run] at h
    obtain ⟨b, u, haction, hrest⟩ := exec_bind_eq_ok_iff.mp h
    cases b with
    | true =>
      obtain ⟨steps, hsteps⟩ := exists_performs rest hrest
      exact ⟨_, .action haction hsteps⟩
    | false =>
      obtain ⟨rfl, rfl⟩ := Action.eq_stop_of_exec_run haction
      cases hrest
      exact ⟨_, .stop⟩
  -- rest, s, t, goesOn, h => by
  | .choice branches otherwise :: rest, s, t, goesOn, h => by
    rw [Command.runAll, Command.run] at h
    obtain ⟨b, u, hchoice, hrest⟩ := exec_bind_eq_ok_iff.mp h
    obtain ⟨tests, chosen, v, hchooses, steps, hsteps⟩ :=
      exists_chooses (fun h => exists_performs otherwise h) branches hchoice
    cases b with
    | true =>
      obtain ⟨more, hmore⟩ := exists_performs rest hrest
      exact ⟨_, .choice hchooses hsteps hmore⟩
    | false =>
      cases hrest
      exact ⟨_, .stopWithin hchooses hsteps⟩

/-- A choice that does not break off chooses a block, and the block has steps. -/
theorem exists_chooses {otherwise : List Command}
    (helse : ∀ {s t : State} {goesOn : Bool},
      exec (Command.runAll otherwise) e s = (.ok goesOn, t) →
        ∃ steps, Performs e otherwise s steps goesOn t) :
    ∀ (branches : List (Test × List Command)) {s t : State} {goesOn : Bool},
      exec (Command.runChoice (Command.runAll otherwise) branches) e s = (.ok goesOn, t) →
        ∃ tests chosen u, Chooses e branches otherwise s tests chosen u ∧
          ∃ steps, Performs e chosen u steps goesOn t
  | [], s, t, goesOn, h => by
    rw [Command.runChoice] at h
    exact ⟨_, _, _, .otherwise, helse h⟩
  | (test, block) :: branches, s, t, goesOn, h => by
    rw [Command.runChoice] at h
    obtain ⟨b, u, htest, hrest⟩ := exec_bind_eq_ok_iff.mp h
    cases b with
    | true => exact ⟨_, _, _, .here htest, exists_performs block hrest⟩
    | false =>
      obtain ⟨tests, chosen, v, hchooses, hsteps⟩ := exists_chooses helse branches hrest
      exact ⟨_, _, _, .later htest hchooses, hsteps⟩

end

/-- The rules and the functions say the same of a block that does not break off. -/
theorem exec_runAll_eq_ok_iff {block : List Command} {s t : State} {goesOn : Bool} :
    exec (Command.runAll block) e s = (.ok goesOn, t) ↔
      ∃ steps, Performs e block s steps goesOn t :=
  ⟨exists_performs block, fun ⟨_, h⟩ => h.exec_runAll⟩

/-! ## States -/

/-- The state in which a step leaves a run. -/
def Step.after (e : Surroundings) (s : State) : Step → State
  | .set c => (exec c.run e s).2
  | .decide test _ => (exec test.evaluate e s).2
  | .action a =>
    if a = .stop then s
    else { s with outcome := s.outcome.record a, journal := a.noted a.argument s.journal }

/-- An action that has been expanded leads to the state that it led to as written. -/
theorem Step.after_action {a : Action} {s t : State} (h : exec a.run e s = (.ok true, t)) :
    (Step.action (a.withArgument (e.expanded s.store a.argument))).after e s = t := by
  have hstop := Action.ne_stop_of_exec_run h
  rw [Action.exec_run, if_neg hstop] at h
  rw [Step.after, if_neg fun heq => hstop (Action.withArgument_eq_stop_iff.mp heq)]
  cases h
  cases a <;> rfl

/-- The tests up to the one that holds lead to the state in which the block begins. -/
theorem Chooses.state_eq {branches : List (Test × List Command)} {otherwise chosen : List Command}
    {s t : State} {steps : List Step} (h : Chooses e branches otherwise s steps chosen t) :
    steps.foldl (Step.after e) s = t := by
  induction h with
  | otherwise => rfl
  | here h => exact congrArg Prod.snd h
  | later h _ ih =>
    rw [List.foldl_cons, Step.after, h]
    exact ih

/-- A run ends in the state that its steps lead to, one after another. -/
theorem Performs.state_eq {block : List Command} {s t : State} {steps : List Step} {goesOn : Bool}
    (h : Performs e block s steps goesOn t) : steps.foldl (Step.after e) s = t := by
  induction h with
  | nil => rfl
  | set h _ ih =>
    rw [List.foldl_cons, Step.after, h]
    exact ih
  | action h _ ih =>
    rw [List.foldl_cons, Step.after_action h]
    exact ih
  | stop => rfl
  | choice hchoice _ _ ihblock ihrest =>
    rw [List.foldl_append, List.foldl_append, hchoice.state_eq, ihblock, ihrest]
  | stopWithin hchoice _ ih => rw [List.foldl_append, hchoice.state_eq, ih]

/-! ## The end of a script -/

/-- The steps end with `stop` if the script does not go on, and hold it nowhere else. -/
def StopsLast (steps : List Step) (goesOn : Bool) : Prop :=
  if goesOn then Step.action .stop ∉ steps
  else ∃ before, Step.action .stop ∉ before ∧ steps = before ++ [.action .stop]

/-- Steps without `stop` in front change nothing. -/
theorem StopsLast.append {first rest : List Step} {goesOn : Bool}
    (hfirst : Step.action .stop ∉ first) (h : StopsLast rest goesOn) :
    StopsLast (first ++ rest) goesOn := by
  cases goesOn with
  | true =>
    intro hmem
    exact (List.mem_append.mp hmem).elim hfirst h
  | false =>
    obtain ⟨before, hbefore, rfl⟩ := h
    refine ⟨first ++ before, fun hmem => ?_, (List.append_assoc ..).symm⟩
    exact (List.mem_append.mp hmem).elim hfirst hbefore

/-- Nor does a step that is no `stop`. -/
theorem StopsLast.cons {step : Step} {rest : List Step} {goesOn : Bool}
    (hstep : step ≠ .action .stop) (h : StopsLast rest goesOn) :
    StopsLast (step :: rest) goesOn :=
  .append (fun hmem => hstep (List.mem_singleton.mp hmem).symm) h

/-- `stop` has been performed exactly if the script does not go on. -/
theorem StopsLast.mem_iff {steps : List Step} {goesOn : Bool} (h : StopsLast steps goesOn) :
    Step.action .stop ∈ steps ↔ goesOn = false := by
  cases goesOn with
  | true => exact iff_of_false h Bool.noConfusion
  | false =>
    obtain ⟨before, -, rfl⟩ := h
    exact iff_of_true (List.mem_append_right _ (List.mem_singleton_self _)) rfl

/-- Nothing is performed after `stop`. -/
theorem StopsLast.eq_nil {before after : List Step} {goesOn : Bool}
    (h : StopsLast (before ++ .action .stop :: after) goesOn) : after = [] := by
  have hmem : Step.action .stop ∈ before ++ .action .stop :: after := by simp
  obtain rfl := h.mem_iff.mp hmem
  obtain ⟨first, hfirst, heq⟩ := h
  -- the first `stop` on the left is the only one on the right
  obtain ⟨rest, rfl, hrest⟩ | ⟨rest, rfl, hrest⟩ := List.append_eq_append_iff.mp heq
  · cases rest with
    | nil => exact (List.cons.inj hrest).2
    | cons step rest =>
      obtain ⟨rfl, -⟩ := List.cons.inj hrest
      exact absurd (by simp) hfirst
  · cases rest with
    | nil => exact (List.cons.inj hrest).2.symm
    | cons step rest => cases rest <;> cases hrest

/-- To choose a block only tests are decided. -/
theorem Chooses.stop_not_mem {branches : List (Test × List Command)}
    {otherwise chosen : List Command} {s t : State} {steps : List Step}
    (h : Chooses e branches otherwise s steps chosen t) : Step.action .stop ∉ steps := by
  induction h with
  | otherwise => exact List.not_mem_nil
  | here => simp
  | later _ _ ih => simpa using ih

/-- A block that performs `stop`, at whatever depth, performs it last. -/
theorem Performs.stopsLast {block : List Command} {s t : State} {steps : List Step}
    {goesOn : Bool} (h : Performs e block s steps goesOn t) : StopsLast steps goesOn := by
  induction h with
  | nil => exact List.not_mem_nil
  | set _ _ ih => exact .cons nofun ih
  | action h _ ih =>
    refine .cons (fun heq => ?_) ih
    exact Action.ne_stop_of_exec_run h (Action.withArgument_eq_stop_iff.mp (Step.action.inj heq))
  | stop => exact ⟨[], List.not_mem_nil, rfl⟩
  -- a block that the script goes on after holds no `stop`
  | choice hchoice _ _ ihblock ihrest =>
    rw [List.append_assoc]
    exact .append hchoice.stop_not_mem (.append ihblock ihrest)
  | stopWithin hchoice _ ih => exact .append hchoice.stop_not_mem ih

/-! ## Outcomes -/

/-- The actions among steps. -/
def actionsOf (steps : List Step) : List Action :=
  steps.filterMap fun
    | .action a => some a
    | _ => none

/-- The actions of steps are the steps that are actions. -/
theorem mem_actionsOf_iff {steps : List Step} {a : Action} :
    a ∈ actionsOf steps ↔ Step.action a ∈ steps := by
  rw [actionsOf, List.mem_filterMap]
  constructor
  · rintro ⟨step, hmem, heq⟩
    cases step with
    | action b =>
      cases heq
      exact hmem
    | set c => cases heq
    | decide test holds => cases heq
  · intro hmem
    exact ⟨.action a, hmem, rfl⟩

end Delivery

namespace Outcome

/-- Records actions one after another. -/
def recordAll (o : Outcome) (actions : List Action) : Outcome :=
  actions.foldl record o

/-- Actions are recorded one after another. -/
theorem recordAll_append (o : Outcome) (first rest : List Action) :
    o.recordAll (first ++ rest) = (o.recordAll first).recordAll rest :=
  List.foldl_append

end Outcome

namespace Delivery

open Run

variable {e : Surroundings}

/-- The actions of several steps are those of the first ones and of the others. -/
theorem actionsOf_append (first rest : List Step) :
    actionsOf (first ++ rest) = actionsOf first ++ actionsOf rest :=
  List.filterMap_append

/-- To choose a block no action is performed, and the outcome stays. -/
theorem Chooses.outcome_eq {branches : List (Test × List Command)}
    {otherwise chosen : List Command} {s t : State} {steps : List Step}
    (h : Chooses e branches otherwise s steps chosen t) :
    actionsOf steps = [] ∧ t.outcome = s.outcome := by
  induction h with
  | otherwise => exact ⟨rfl, rfl⟩
  | here h => exact ⟨rfl, (Test.kept_of_exec h).2⟩
  | later h _ ih => exact ⟨ih.1, ih.2.trans (Test.kept_of_exec h).2⟩

/-- What the actions of a run record: the outcome in which it ends, and `stop` if it ends early. -/
theorem Performs.recordAll_eq {block : List Command} {s t : State} {steps : List Step}
    {goesOn : Bool} (h : Performs e block s steps goesOn t) :
    s.outcome.recordAll (actionsOf steps) =
      if goesOn then t.outcome else t.outcome.record .stop := by
  induction h with
  | nil => rfl
  | set h _ ih =>
    obtain ⟨_, -, houtcome⟩ := SetCommand.execute_of_exec_run h
    rw [← ih, houtcome]
    rfl
  | action h _ ih =>
    have hstop := Action.ne_stop_of_exec_run h
    rw [Action.exec_run, if_neg hstop] at h
    cases h
    exact ih
  | stop => rfl
  | choice hchoice _ _ ihblock ihrest =>
    rw [actionsOf_append, actionsOf_append, hchoice.outcome_eq.1, List.nil_append,
      Outcome.recordAll_append, ← hchoice.outcome_eq.2, ihblock, if_pos rfl]
    exact ihrest
  | stopWithin hchoice _ ih =>
    rw [actionsOf_append, hchoice.outcome_eq.1, List.nil_append, ← hchoice.outcome_eq.2]
    exact ih

end Delivery

namespace Engine

open Delivery Run

/-- What a delivery performs. It performs nothing if the switch or the identity of the message
cannot be made out, or if the script breaks off. -/
def Performs (settings : VariablesSettings) (script : Script) (message : Message)
    (account : Option Text) (journal : Journal) (steps : List Step) : Prop :=
  ∃ enabled messageId goesOn t, settings.enabledFor account = .ok enabled ∧
    message.value? "Message-ID" = .ok messageId ∧
    Delivery.Performs ⟨message, enabled⟩ script.commands
      (announced ⟨message, enabled⟩ (start account messageId journal)) steps goesOn t

/-- The state in which a script ends: an early end is recorded. -/
def ended (goesOn : Bool) (s : State) : State :=
  if goesOn then s else { s with outcome := s.outcome.record .stop }

/-- A script that does not break off performs steps, and ends with a record if it ends early. -/
theorem exec_runCommands_eq_ok_iff {script : Script} {e : Surroundings} {s t : State} :
    exec (runCommands script) e s = (.ok (), t) ↔
      ∃ steps goesOn u, Delivery.Performs e script.commands s steps goesOn u ∧
        t = ended goesOn u := by
  unfold runCommands
  rw [exec_bind_eq_ok_iff]
  constructor
  · rintro ⟨goesOn, u, hrun, hend⟩
    obtain ⟨steps, hsteps⟩ := exec_runAll_eq_ok_iff.mp hrun
    refine ⟨steps, goesOn, u, hsteps, ?_⟩
    cases goesOn <;> exact (congrArg Prod.snd hend).symm
  · rintro ⟨steps, goesOn, u, hsteps, rfl⟩
    refine ⟨goesOn, u, hsteps.exec_runAll, ?_⟩
    cases goesOn <;> rfl

/-- The outcome of a whole script is what its actions record from the beginning. -/
theorem outcome_ended {script : Script} {e : Surroundings} {account messageId : Option Text}
    {journal : Journal} {steps : List Step} {goesOn : Bool} {u : State}
    (h : Delivery.Performs e script.commands (announced e (start account messageId journal)) steps
      goesOn u) :
    (ended goesOn u).outcome = ({} : Outcome).recordAll (actionsOf steps) := by
  have hrecorded := h.recordAll_eq
  rw [outcome_announced] at hrecorded
  show _ = (start account messageId journal).outcome.recordAll _
  rw [hrecorded]
  cases goesOn <;> rfl

/-- A delivery has an outcome exactly if it performs something, and the outcome is what its actions
record, one after another. -/
theorem deliver_eq_ok_iff_performs {settings : VariablesSettings} {script : Script}
    {message : Message} {account : Option Text} {journal : Journal} {outcome : Outcome} :
    (deliver settings script message account journal).1 = .ok outcome ↔
      ∃ steps, Performs settings script message account journal steps ∧
        ({} : Outcome).recordAll (actionsOf steps) = outcome := by
  rw [deliver_eq_ok_iff]
  constructor
  · rintro ⟨enabled, messageId, t, hon, hid, hexec, rfl⟩
    rw [exec_runScript, exec_runCommands_eq_ok_iff] at hexec
    obtain ⟨steps, goesOn, u, hsteps, rfl⟩ := hexec
    exact ⟨steps, ⟨enabled, messageId, goesOn, u, hon, hid, hsteps⟩, (outcome_ended hsteps).symm⟩
  · rintro ⟨steps, ⟨enabled, messageId, goesOn, u, hon, hid, hsteps⟩, rfl⟩
    refine ⟨enabled, messageId, ended goesOn u, hon, hid, ?_, outcome_ended hsteps⟩
    rw [exec_runScript]
    exact exec_runCommands_eq_ok_iff.mpr ⟨steps, goesOn, u, hsteps, rfl⟩

end Engine

end MailFilter
