import Mathlib
import MailFilter.Proofs.Delivery.Following

/-!
# What holds throughout a run

A run goes from test to test and from command to command, each of which it enters in some state. What
single steps preserve holds at every such point, also of a run that breaks off later on.

- `Preserves`: what holds before a step holds after it, even where it breaks off.
- `StepInvariant`: what a match, a `set` command and an action preserve.
- `Passage`, `Passage.Enters`, `Passage.Meets`: the passages of a script, and those that the run of
  a passage comes to, each with the state in which it does.
- `StepInvariant.preserves`, `StepInvariant.meets`: an invariant of single steps holds before and
  after every passage that a run meets.
- `Engine.Meets`: the passages that a delivery comes to.
-/

namespace MailFilter

namespace Delivery

open Run

variable {e : Surroundings} {P : State → Prop} {α : Type}

/-- What holds before a step holds after it, even where it breaks off. -/
def Preserves (e : Surroundings) (P : State → Prop) (r : Run α) : Prop :=
  ∀ s, P s → P (exec r e s).2

theorem Preserves.of_exec {r : Run α} (h : Preserves e P r) {s t : State} {result : Except Failure α}
    (hexec : exec r e s = (result, t)) (hs : P s) : P t := by
  have hkept := h s hs
  rwa [hexec] at hkept

/-- What single steps preserve. -/
structure StepInvariant (e : Surroundings) (P : State → Prop) : Prop where
  matched : ∀ s matchType groups, P s → P (s.matched e matchType groups)
  set : ∀ c : SetCommand, Preserves e P c.run
  action : ∀ a : Action, Preserves e P a.run

/-- The same state, of which something holds. -/
def SameWith (P : State → Prop) (s₁ s₂ : State) : Prop :=
  s₁ = s₂ ∧ P s₁

/-- A step that preserves something follows itself. -/
theorem preserves_iff {r : Run α} :
    Preserves e P r ↔ Follows (fun _ => True) (SameWith P) e e r r := by
  constructor
  · rintro h s _ ⟨rfl, hs⟩ _
    exact ⟨rfl, rfl, h s hs⟩
  · intro h s hs
    exact (h s s ⟨rfl, hs⟩ fun _ _ => trivial).2.2

theorem StepInvariant.escorts (h : StepInvariant e P) : Escorts (SameWith P) e e where
  message := rfl
  matched := by
    rintro s _ matchType groups ⟨rfl, hs⟩
    exact ⟨rfl, h.matched s matchType groups hs⟩

theorem StepInvariant.preserves_test (h : StepInvariant e P) (test : Test) :
    Preserves e P test.evaluate := by
  refine preserves_iff.mpr (Test.follows h.escorts test fun t _ => ?_)
  rintro s _ ⟨rfl, _⟩
  rfl

theorem StepInvariant.preserves_block (h : StepInvariant e P) (commands : List Command) :
    Preserves e P (Command.runAll commands) := by
  -- a block is the block pruned of nothing, so it follows itself
  have hfollows : Follows (fun _ => True) (SameWith P) e e (Command.runAll commands)
      (Command.runAll (Command.prunedIn (fun _ => false) commands)) :=
    Command.followsAll commands (fun test _ => preserves_iff.mp (h.preserves_test test))
      (fun a _ => preserves_iff.mp (h.action a)) fun c _ => preserves_iff.mp (h.set c)
  rw [Command.prunedIn_none] at hfollows
  exact preserves_iff.mpr hfollows

theorem StepInvariant.preserves_command (h : StepInvariant e P) (c : Command) :
    Preserves e P c.run := by
  have hfollows : Follows (fun _ => True) (SameWith P) e e c.run (c.pruned fun _ => false).run :=
    Command.follows c (by cases c <;> rfl) (fun test _ => preserves_iff.mp (h.preserves_test test))
      (fun a _ => preserves_iff.mp (h.action a)) fun c _ => preserves_iff.mp (h.set c)
  rw [Command.pruned_none] at hfollows
  exact preserves_iff.mpr hfollows

/-! ## Points of a run -/

/-- A passage of a script that is run by itself. -/
inductive Passage where
  | test (test : Test)
  | command (c : Command)
  | block (commands : List Command)

namespace Passage

/-- Runs a passage. -/
def run : Passage → Run Bool
  | .test t => t.evaluate
  | .command c => c.run
  | .block commands => Command.runAll commands

/-- The actions in a passage. -/
def actions : Passage → List Action
  | .test _ => []
  | .command c => c.actions
  | .block commands => Command.actionsIn commands

/-- The passages that the run of a passage goes into, each with the state in which it is run.
The tests of a list are gone into one after another, until one settles the matter. So are the tests
of branches, until one holds, and the commands of a block, until one ends the script. -/
inductive Enters (e : Surroundings) : Passage × State → Passage × State → Prop where
  | negated {test : Test} {s : State} : Enters e (.test (.negation test), s) (.test test, s)
  | firstOfAll {test : Test} {rest : List Test} {s : State} :
      Enters e (.test (.allOf (test :: rest)), s) (.test test, s)
  | restOfAll {test : Test} {rest : List Test} {s t : State}
      (h : exec test.evaluate e s = (.ok true, t)) :
      Enters e (.test (.allOf (test :: rest)), s) (.test (.allOf rest), t)
  | firstOfAny {test : Test} {rest : List Test} {s : State} :
      Enters e (.test (.anyOf (test :: rest)), s) (.test test, s)
  | restOfAny {test : Test} {rest : List Test} {s t : State}
      (h : exec test.evaluate e s = (.ok false, t)) :
      Enters e (.test (.anyOf (test :: rest)), s) (.test (.anyOf rest), t)
  | condition {test : Test} {block : List Command} {branches : List (Test × List Command)}
      {otherwise : List Command} {s : State} :
      Enters e (.command (.choice ((test, block) :: branches) otherwise), s) (.test test, s)
  | chosen {test : Test} {block : List Command} {branches : List (Test × List Command)}
      {otherwise : List Command} {s t : State} (h : exec test.evaluate e s = (.ok true, t)) :
      Enters e (.command (.choice ((test, block) :: branches) otherwise), s) (.block block, t)
  | nextBranch {test : Test} {block : List Command} {branches : List (Test × List Command)}
      {otherwise : List Command} {s t : State} (h : exec test.evaluate e s = (.ok false, t)) :
      Enters e (.command (.choice ((test, block) :: branches) otherwise), s)
        (.command (.choice branches otherwise), t)
  | otherwise {block : List Command} {s : State} :
      Enters e (.command (.choice [] block), s) (.block block, s)
  | first {c : Command} {rest : List Command} {s : State} :
      Enters e (.block (c :: rest), s) (.command c, s)
  | rest {c : Command} {rest : List Command} {s t : State} (h : exec c.run e s = (.ok true, t)) :
      Enters e (.block (c :: rest), s) (.block rest, t)

/-- The passages that the run of a passage comes to, at whatever depth. -/
def Meets (e : Surroundings) : Passage × State → Passage × State → Prop :=
  Relation.ReflTransGen (Enters e)

/-- The actions of a passage are those of the passage that goes into it. -/
theorem Enters.mem_actions {p q : Passage × State} (h : Enters e p q) {a : Action}
    (ha : a ∈ q.1.actions) : a ∈ p.1.actions := by
  cases h with
  | negated | firstOfAll | restOfAll | firstOfAny | restOfAny | condition => exact nomatch ha
  | chosen => exact List.mem_append_left _ (List.mem_append_left _ ha)
  | nextBranch =>
    rcases List.mem_append.mp ha with ha | ha
    · exact List.mem_append_left _ (List.mem_append_right _ ha)
    · exact List.mem_append_right _ ha
  | otherwise => exact ha
  | first => exact List.mem_append_left _ ha
  | rest => exact List.mem_append_right _ ha

theorem Meets.mem_actions {p q : Passage × State} (h : Meets e p q) {a : Action}
    (ha : a ∈ q.1.actions) : a ∈ p.1.actions := by
  induction h with
  | refl => exact ha
  | tail _ henters ih => exact ih (henters.mem_actions ha)

end Passage

/-- What single steps preserve, every passage preserves. -/
theorem StepInvariant.preserves (h : StepInvariant e P) :
    ∀ passage : Passage, Preserves e P passage.run
  | .test test => h.preserves_test test
  | .command c => h.preserves_command c
  | .block commands => h.preserves_block commands

theorem StepInvariant.enters (h : StepInvariant e P) {p q : Passage × State}
    (henters : Passage.Enters e p q) (hp : P p.2) : P q.2 := by
  -- a state changes only where something has been decided or run before the entry
  cases henters with
  | negated | firstOfAll | firstOfAny | condition | otherwise | first => exact hp
  | restOfAll hexec | restOfAny hexec | chosen hexec | nextBranch hexec =>
    exact (h.preserves_test _).of_exec hexec hp
  | rest hexec => exact (h.preserves_command _).of_exec hexec hp

/-- What single steps preserve holds wherever a run comes to. -/
theorem StepInvariant.meets (h : StepInvariant e P) {p q : Passage × State}
    (hmeets : Passage.Meets e p q) (hp : P p.2) : P q.2 := by
  -- on the way to the passage, one entry at a time
  induction hmeets with
  | refl => exact hp
  | tail _ henters ih => exact h.enters henters ih

end Delivery

open Delivery

/-- The passages of a script that a delivery comes to, each with the state in which it is run. There
are none if the switch or the identity of the message cannot be made out. -/
def Engine.Meets (settings : VariablesSettings) (script : Script) (message : Message)
    (account : Option Text) (journal : Journal) (passage : Passage) (s : State) : Prop :=
  ∃ enabled messageId, settings.enabledFor account = .ok enabled ∧
    message.value? "Message-ID" = .ok messageId ∧
    Passage.Meets ⟨message, enabled⟩ (.block script.commands,
      announced ⟨message, enabled⟩ (start account messageId journal)) (passage, s)

end MailFilter
