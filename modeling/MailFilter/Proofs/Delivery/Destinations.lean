import MailFilter.Proofs.Delivery.Sequence

/-!
# Where a message ends up

A script that does not break off loses a message only if it discards the message, and neither keeps
nor files it. Everything else that it performs leaves at least one destination.

- `Outcome.mem_folders_recordAll_iff`, `Outcome.mem_destinations_iff`: folders in terms of actions.
- `Performs.exists_mem_actions`: what is performed stands in the script.
- `Engine.destinations_of_performs`: the destinations of a delivery in terms of what it performs.

A folder whose name expands to nothing is a destination like any other.
-/

namespace MailFilter

open Delivery Run

namespace Outcome

theorem explicitKeep_record (o : Outcome) (a : Action) :
    (o.record a).explicitKeep = (o.explicitKeep || decide (a = .keep)) := by
  cases a <;> simp [record, addTag, apply_ite]

theorem discarded_record (o : Outcome) (a : Action) :
    (o.record a).discarded = (o.discarded || decide (a = .discard)) := by
  cases a <;> simp [record, addTag, apply_ite]

theorem mem_folders_record_iff {o : Outcome} {a : Action} {folder : Text} :
    folder ∈ (o.record a).folders ↔ folder ∈ o.folders ∨ a = .fileInto folder := by
  cases a <;> simp [record, addTag, apply_ite, eq_comm]

/-- A message is filed into the folders that actions name. -/
theorem mem_folders_recordAll_iff {o : Outcome} {actions : List Action} {folder : Text} :
    folder ∈ (o.recordAll actions).folders ↔
      folder ∈ o.folders ∨ Action.fileInto folder ∈ actions := by
  induction actions generalizing o with
  | nil => simp [recordAll]
  | cons a rest ih =>
    rw [recordAll, List.foldl_cons]
    refine ih.trans ?_
    rw [mem_folders_record_iff, or_assoc, List.mem_cons, @eq_comm _ (Action.fileInto folder)]

/-- The folders of a message, and the default folder if the message is kept. -/
theorem mem_destinations_iff {o : Outcome} {folder defaultFolder : Text} :
    folder ∈ o.destinations defaultFolder ↔
      folder ∈ o.folders ∨ (folder = defaultFolder ∧ o.isKept = true) := by
  constructor
  · intro h
    unfold destinations at h
    split at h
    · next hadded =>
      refine (List.mem_append.mp h).imp_right fun hmem => ⟨List.mem_singleton.mp hmem, ?_⟩
      exact (Bool.and_eq_true_iff.mp hadded).1
    · exact .inl h
  · rintro (hmem | ⟨rfl, hkept⟩)
    · exact mem_destinations_of_mem_folders defaultFolder hmem
    · exact mem_destinations_of_isKept o folder hkept

theorem isKept_iff {o : Outcome} :
    o.isKept = true ↔ o.explicitKeep = true ∨ (o.discarded = false ∧ o.folders = []) := by
  simp [isKept]

end Outcome

namespace Delivery

variable {e : Surroundings}

/-- The actions of the chosen block are actions of the branches or of the last block. -/
theorem Chooses.mem_actions {branches : List (Test × List Command)}
    {otherwise chosen : List Command} {s t : State} {steps : List Step} {a : Action}
    (h : Chooses e branches otherwise s steps chosen t) (ha : a ∈ Command.actionsIn chosen) :
    a ∈ (Command.choice branches otherwise).actions := by
  rw [Command.actions, List.mem_append]
  induction h with
  | otherwise => exact .inr ha
  | here => exact .inl (List.mem_append_left _ ha)
  | later _ _ ih => exact (ih ha).imp_left (List.mem_append_right _)

/-- Every action that is performed stands in the block, but for its argument. -/
theorem Performs.exists_mem_actions {block : List Command} {s t : State} {steps : List Step}
    {goesOn : Bool} (h : Performs e block s steps goesOn t) :
    ∀ a ∈ actionsOf steps, ∃ b ∈ Command.actionsIn block, ∃ argument,
      a = b.withArgument argument := by
  -- tests of branches are steps too, but none of them is an action
  induction h with
  | nil => exact nofun
  | set _ _ ih => exact ih
  | @action b _ _ _ _ _ _ _ _ ih =>
    intro a ha
    rcases List.mem_cons.mp ha with rfl | ha
    · exact ⟨b, List.mem_cons_self, _, rfl⟩
    · obtain ⟨c, hc, harg⟩ := ih a ha
      exact ⟨c, List.mem_cons_of_mem b hc, harg⟩
  | stop =>
    intro a ha
    obtain rfl := List.mem_singleton.mp ha
    exact ⟨.stop, List.mem_cons_self, [], rfl⟩
  | choice hchoice _ _ ihblock ihrest =>
    intro a ha
    rw [actionsOf_append, actionsOf_append, hchoice.outcome_eq.1, List.nil_append] at ha
    rcases List.mem_append.mp ha with ha | ha
    · obtain ⟨c, hc, harg⟩ := ihblock a ha
      exact ⟨c, List.mem_append_left _ (hchoice.mem_actions hc), harg⟩
    · obtain ⟨c, hc, harg⟩ := ihrest a ha
      exact ⟨c, List.mem_append_right _ hc, harg⟩
  | stopWithin hchoice _ ih =>
    intro a ha
    rw [actionsOf_append, hchoice.outcome_eq.1, List.nil_append] at ha
    obtain ⟨c, hc, harg⟩ := ih a ha
    exact ⟨c, List.mem_append_left _ (hchoice.mem_actions hc), harg⟩

end Delivery

namespace Engine

/-- A script without `discard` at any depth does not perform it. -/
theorem discard_not_mem_of_performs {settings : VariablesSettings} {script : Script}
    {message : Message} {account : Option Text} {journal : Journal} {steps : List Step}
    (h : Performs settings script message account journal steps)
    (hfree : Action.discard ∉ script.actions) : Step.action .discard ∉ steps := by
  obtain ⟨_, _, _, _, -, -, hsteps⟩ := h
  intro hmem
  obtain ⟨b, hb, argument, heq⟩ :=
    hsteps.exists_mem_actions .discard (mem_actionsOf_iff.mpr hmem)
  cases b <;> cases heq
  exact hfree hb

/-- What the outcome of a delivery records are the actions that have been performed. -/
theorem recorded_iff_of_performs {settings : VariablesSettings} {script : Script}
    {message : Message} {account : Option Text} {journal : Journal} {outcome : Outcome}
    {steps : List Step} (h : (deliver settings script message account journal).1 = .ok outcome)
    (hsteps : Performs settings script message account journal steps) :
    (outcome.explicitKeep = true ↔ .action .keep ∈ steps) ∧
      (outcome.discarded = true ↔ .action .discard ∈ steps) ∧
      ∀ folder, folder ∈ outcome.folders ↔ .action (.fileInto folder) ∈ steps := by
  rw [← outcome_eq_of_performs h hsteps, Outcome.flag_recordAll Outcome.explicitKeep_record,
    Outcome.flag_recordAll Outcome.discarded_record, mem_actionsOf_iff, mem_actionsOf_iff]
  refine ⟨or_iff_right Bool.false_ne_true, or_iff_right Bool.false_ne_true, fun folder => ?_⟩
  rw [Outcome.mem_folders_recordAll_iff, mem_actionsOf_iff]
  exact or_iff_right List.not_mem_nil

/-- The destinations of a delivery that does not break off are the folders into which the message
has been filed, and the default folder if `keep` has been performed, or neither `discard` nor
`fileinto`.
So there is none exactly if `discard` has been performed, and neither `keep` nor `fileinto`; a
script without `discard` always leaves one. -/
theorem destinations_of_performs {settings : VariablesSettings} {script : Script}
    {message : Message} {account : Option Text} {journal : Journal} {outcome : Outcome}
    (h : (deliver settings script message account journal).1 = .ok outcome)
    (defaultFolder : Text) :
    (∃ steps, Performs settings script message account journal steps) ∧
    (∀ steps, Performs settings script message account journal steps →
      (∀ folder, folder ∈ outcome.destinations defaultFolder ↔
        .action (.fileInto folder) ∈ steps ∨
          (folder = defaultFolder ∧ (.action .keep ∈ steps ∨
            (.action .discard ∉ steps ∧ ∀ other, .action (.fileInto other) ∉ steps)))) ∧
      (outcome.destinations defaultFolder = [] ↔
        .action .discard ∈ steps ∧ .action .keep ∉ steps ∧
          ∀ other, .action (.fileInto other) ∉ steps)) ∧
    (.discard ∉ script.actions → outcome.destinations defaultFolder ≠ []) := by
  -- some list of steps exists; what is said holds of every list
  obtain ⟨steps₀, hsteps₀, -⟩ := deliver_eq_ok_iff_performs.mp h
  refine ⟨⟨steps₀, hsteps₀⟩, fun steps hsteps => ?_, fun hfree hnone => ?_⟩
  · obtain ⟨hkeep, hdiscard, hfiled⟩ := recorded_iff_of_performs h hsteps
    have hunfiled : outcome.folders = [] ↔ ∀ other, Step.action (.fileInto other) ∉ steps := by
      rw [List.eq_nil_iff_forall_not_mem]
      exact forall_congr' fun other => not_congr (hfiled other)
    refine ⟨fun folder => ?_, ?_⟩
    · rw [Outcome.mem_destinations_iff, Outcome.isKept_iff, hfiled, hkeep, hunfiled,
        ← Bool.not_eq_true, hdiscard]
    · rw [Outcome.destinations_eq_nil_iff, hunfiled, hdiscard, ← Bool.not_eq_true, hkeep]
  · -- no destination means that `discard` was performed, and so that it stands in the script
    have hdiscarded := ((Outcome.destinations_eq_nil_iff outcome defaultFolder).mp hnone).1
    have hperformed := (recorded_iff_of_performs h hsteps₀).2.1.mp hdiscarded
    exact discard_not_mem_of_performs hsteps₀ hfree hperformed

/-- A branch discards a message and ends the script before the message is kept. Another script holds
no `discard` and files the message into a folder whose name expands to nothing. -/
theorem destinations_of_performs_discarded :
    let losing : Script := ⟨"", [],
      [.choice [(.negation (.constant false),
        [.action .discard, .action (.log "gone"), .action .stop])] [], .action .keep]⟩
    let filing : Script := ⟨"", [], [.action (.tag "seen"), .action (.fileInto "$\x7bnone\x7d")]⟩
    let lost : Outcome := { logs := ["gone"], discarded := true, stopped := true }
    let filed : Outcome := { tags := ["seen"], folders := [[]] }
    ((deliver {} losing ⟨[]⟩ none .empty).1 = .ok lost ∧
      ∃ steps, Performs {} losing ⟨[]⟩ none .empty steps ∧ .action .discard ∈ steps ∧
        .action .keep ∉ steps) ∧
    (deliver {} filing ⟨[]⟩ none .empty).1 = .ok filed ∧ filed.destinations "INBOX" ≠ [] ∧
      ∃ steps, Performs {} filing ⟨[]⟩ none .empty steps ∧ .action (.fileInto []) ∈ steps := by
  intro losing filing lost filed
  have hlost : (deliver {} losing ⟨[]⟩ none .empty).1 = .ok lost := by cbv
  have hfiled : (deliver {} filing ⟨[]⟩ none .empty).1 = .ok filed := by cbv
  have hfree : Action.discard ∉ filing.actions := by decide
  obtain ⟨⟨steps, hsteps⟩, hall, -⟩ := destinations_of_performs hlost "INBOX"
  obtain ⟨⟨more, hmore⟩, hevery, hsome⟩ := destinations_of_performs hfiled "INBOX"
  refine ⟨⟨hlost, steps, hsteps, ?_⟩, hfiled, hsome hfree, more, hmore, ?_⟩
  · obtain ⟨hdiscard, hkeep, -⟩ := (hall steps hsteps).2.mp rfl
    exact ⟨hdiscard, hkeep⟩
  · have hmem : ([] : Text) ∈ filed.destinations "INBOX" := by decide
    have hperformed := ((hevery more hmore).1 []).mp hmem
    exact hperformed.resolve_right fun h => absurd h.1 (by decide)

end Engine

end MailFilter
