import MailFilter.Proofs.Delivery.Destinations
import MailFilter.Proofs.Delivery.Invariant

/-!
# Outcomes grow

What is recorded for a message is never taken back while a script runs. Folders and lines are added
one after another, tags only if they are not there yet, and what was set stays set.

- `Outcome.Grows`: what the first of two outcomes holds the second one holds too.
- `Outcome.grows_record`: recording an action makes an outcome grow.
- `Outcome.part_recordAll`, `Outcome.tags_recordAll`: the lists of an outcome in terms of actions.
- `grows_stepInvariant`: no step of a run takes anything back.
- `Command.outcome_grows`: the outcome of a block in terms of what the block performs.

The outcome grows in a run that breaks off as well.
-/

namespace MailFilter

namespace Action

/-- The tag that an action adds. -/
def tag? : Action → Option Text
  | .tag name => some name
  | _ => none

/-- The folder that an action files the message into. -/
def folder? : Action → Option Text
  | .fileInto folder => some folder
  | _ => none

/-- The line that an action records. -/
def line? : Action → Option Text
  | .log line => some line
  | _ => none

end Action

namespace Outcome

/-- Nothing is missing in the second outcome: lists are continued, and what was set stays set. -/
structure Grows (before after : Outcome) : Prop where
  tags : before.tags <+: after.tags
  folders : before.folders <+: after.folders
  logs : before.logs <+: after.logs
  explicitKeep : before.explicitKeep = true → after.explicitKeep = true
  discarded : before.discarded = true → after.discarded = true

theorem Grows.refl (o : Outcome) : Grows o o :=
  ⟨List.prefix_rfl, List.prefix_rfl, List.prefix_rfl, id, id⟩

theorem Grows.trans {a b c : Outcome} (hab : Grows a b) (hbc : Grows b c) : Grows a c :=
  ⟨hab.tags.trans hbc.tags, hab.folders.trans hbc.folders, hab.logs.trans hbc.logs,
    hbc.explicitKeep ∘ hab.explicitKeep, hbc.discarded ∘ hab.discarded⟩

theorem tags_addTag (o : Outcome) (tag : Text) :
    (o.addTag tag).tags = if tag ∈ o.tags then o.tags else o.tags ++ [tag] := by
  rw [addTag, apply_ite tags]

theorem grows_addTag (o : Outcome) (tag : Text) : Grows o (o.addTag tag) := by
  rw [addTag]
  split
  · exact .refl o
  · exact { Grows.refl o with tags := List.prefix_append _ _ }

theorem grows_record (o : Outcome) (a : Action) : Grows o (o.record a) := by
  cases a with
  | tag name => exact grows_addTag o name
  | fileInto folder => exact { Grows.refl o with folders := List.prefix_append _ _ }
  | log line => exact { Grows.refl o with logs := List.prefix_append _ _ }
  | keep => exact { Grows.refl o with explicitKeep := fun _ => rfl }
  | discard => exact { Grows.refl o with discarded := fun _ => rfl }
  | stop => exact { Grows.refl o with }

/-- A tag is not added a second time. -/
theorem nodup_tags_record {o : Outcome} (h : o.tags.Nodup) (a : Action) :
    (o.record a).tags.Nodup := by
  cases a with
  | tag name =>
    rw [record, tags_addTag]
    split
    · exact h
    · next hnew => exact List.nodup_append.mpr ⟨h, List.nodup_singleton name, by grind⟩
  | fileInto | log | keep | discard | stop => exact h

/-- A list to which some of the actions add at its end. -/
theorem part_recordAll {part : Outcome → List Text} {added? : Action → Option Text}
    (h : ∀ o a, part (o.record a) = part o ++ (added? a).toList) (o : Outcome)
    (actions : List Action) : part (o.recordAll actions) = part o ++ actions.filterMap added? := by
  -- what an action adds comes before what the later ones add
  induction actions generalizing o with
  | nil => simp [recordAll]
  | cons a rest ih =>
    rw [recordAll, List.foldl_cons]
    refine (ih (o.record a)).trans ?_
    rw [h, List.append_assoc]
    cases hadded : added? a <;> simp [hadded]

theorem folders_record (o : Outcome) (a : Action) :
    (o.record a).folders = o.folders ++ a.folder?.toList := by
  cases a <;> simp [record, addTag, apply_ite, Action.folder?]

theorem logs_record (o : Outcome) (a : Action) : (o.record a).logs = o.logs ++ a.line?.toList := by
  cases a <;> simp [record, addTag, apply_ite, Action.line?]

/-- The tags that were there, and the new ones in the order of their first use. -/
theorem tags_recordAll (o : Outcome) (actions : List Action) :
    (o.recordAll actions).tags =
      o.tags ++ ((actions.filterMap Action.tag?).filter (· ∉ o.tags)).eraseDups := by
  induction actions generalizing o with
  | nil => simp [recordAll]
  | cons a rest ih =>
    rw [recordAll, List.foldl_cons]
    refine (ih (o.record a)).trans ?_
    cases a with
    | tag name =>
      have hfirst : (Action.tag name :: rest).filterMap Action.tag? =
          name :: rest.filterMap Action.tag? := rfl
      rw [record, tags_addTag, hfirst]
      by_cases hold : name ∈ o.tags
      · rw [if_pos hold, List.filter_cons_of_neg (by simpa using hold)]
      · -- a new tag is in the outcome from then on, as if it had been filtered out of the rest
        have hlater : ∀ names : List Text, names.filter (· ∉ o.tags ++ [name]) =
            (names.filter (· ∉ o.tags)).filter fun other => !other == name := by
          intro names
          rw [List.filter_filter]
          refine List.filter_congr fun other _ => ?_
          rw [Bool.eq_iff_iff]
          simp [and_comm]
        rw [if_neg hold, List.filter_cons_of_pos (by simpa using hold), List.eraseDups_cons,
          hlater, List.append_assoc, List.singleton_append]
    | fileInto | log | keep | discard | stop => rfl

end Outcome

namespace Delivery

open Run

variable {e : Surroundings}

/-- No step of a run takes anything back, and no step adds a tag twice. -/
theorem grows_stepInvariant (e : Surroundings) (o : Outcome) :
    StepInvariant e fun s => o.Grows s.outcome ∧ s.outcome.tags.Nodup where
  matched := by
    intro s matchType groups hs
    rwa [State.outcome_matched]
  set := by
    intro c s hs
    rw [SetCommand.exec_run]
    split <;> exact hs
  action := by
    intro a s hs
    rw [Action.exec_run]
    split
    · exact hs
    · exact ⟨hs.1.trans (Outcome.grows_record _ _), Outcome.nodup_tags_record hs.2 _⟩

/-- What `stop` does not change is what the actions of a run have recorded. -/
theorem Performs.part_eq {block : List Command} {s t : State} {steps : List Step} {goesOn : Bool}
    (h : Performs e block s steps goesOn t) {β : Type} (part : Outcome → β)
    (hpart : ∀ o, part (o.record .stop) = part o) :
    part t.outcome = part (s.outcome.recordAll (actionsOf steps)) := by
  rw [h.recordAll_eq]
  cases goesOn with
  | true => rfl
  | false => exact (hpart t.outcome).symm

end Delivery

open Delivery Run

/-- While a block is run the outcome only grows, and no tag is there twice, also where the run breaks
off. If it does not break off, the folders and lines are those before it and one more for each
`fileinto` and `log` that has been performed, in this order. The tags are those before it, and behind
them the arguments of the `tag` commands that have been performed, in the order of their first use and
without those that were there already. All arguments are expanded as they are when the command is
performed. -/
theorem Command.outcome_grows (block : List Command) (e : Surroundings) {s : State}
    (h : s.outcome.tags.Nodup) :
    (∀ result t, exec (runAll block) e s = (result, t) →
      s.outcome.Grows t.outcome ∧ t.outcome.tags.Nodup) ∧
    ∀ goesOn t, exec (runAll block) e s = (.ok goesOn, t) →
      (∃ steps, Performs e block s steps goesOn t) ∧
      ∀ steps, Performs e block s steps goesOn t →
        t.outcome.folders = s.outcome.folders ++ (actionsOf steps).filterMap Action.folder? ∧
        t.outcome.logs = s.outcome.logs ++ (actionsOf steps).filterMap Action.line? ∧
        t.outcome.tags = s.outcome.tags ++
          (((actionsOf steps).filterMap Action.tag?).filter (· ∉ s.outcome.tags)).eraseDups ∧
        (t.outcome.explicitKeep = true ↔
          s.outcome.explicitKeep = true ∨ .action .keep ∈ steps) ∧
        (t.outcome.discarded = true ↔ s.outcome.discarded = true ∨ .action .discard ∈ steps) := by
  constructor
  · -- growth is an invariant of single steps, so it needs no answer
    intro result t hexec
    exact ((grows_stepInvariant e s.outcome).preserves_block block).of_exec hexec ⟨.refl _, h⟩
  · -- the lists are those of the steps that were performed
    intro goesOn t hexec
    refine ⟨exec_runAll_eq_ok_iff.mp hexec, fun steps hsteps => ?_⟩
    refine ⟨?_, ?_, ?_, ?_, ?_⟩
    · rw [hsteps.part_eq Outcome.folders fun _ => rfl]
      exact Outcome.part_recordAll Outcome.folders_record _ _
    · rw [hsteps.part_eq Outcome.logs fun _ => rfl]
      exact Outcome.part_recordAll Outcome.logs_record _ _
    · rw [hsteps.part_eq Outcome.tags fun _ => rfl, Outcome.tags_recordAll]
    · rw [hsteps.part_eq Outcome.explicitKeep fun _ => rfl,
        Outcome.flag_recordAll Outcome.explicitKeep_record, mem_actionsOf_iff]
    · rw [hsteps.part_eq Outcome.discarded fun _ => rfl,
        Outcome.flag_recordAll Outcome.discarded_record, mem_actionsOf_iff]

/-- One tag becomes the same as another one when it is expanded, and one was there before. The script
ends in a branch. -/
theorem Command.outcome_grows_nested :
    let block : List Command :=
      [.set ⟨"x", "B", [":lower"], .ofList [.lower]⟩, .action (.tag "c"),
        .choice [(.constant true,
          [.action (.tag "$\x7bx\x7d"), .action (.tag "a"), .action (.fileInto "new"),
            .action (.tag "b"), .action (.log "$\x7bX\x7d"), .action .stop])] [],
        .action .keep]
    let e : Surroundings := ⟨⟨[]⟩, true⟩
    let s : State := ⟨.empty, { tags := ["a"], folders := ["old"], discarded := true }, .empty⟩
    let after : Outcome :=
      { tags := ["a", "c", "b"], folders := ["old", "new"], logs := ["b"], discarded := true }
    s.outcome.tags.Nodup ∧ ∃ t steps, exec (runAll block) e s = (.ok false, t) ∧ t.outcome = after ∧
      s.outcome.Grows after ∧ after.tags.Nodup ∧ Performs e block s steps false t ∧
      after.tags = (["a"] : List Text) ++
        (((actionsOf steps).filterMap Action.tag?).filter (· ∉ s.outcome.tags)).eraseDups ∧
      .action .keep ∉ steps := by
  intro block e s after
  have hdistinct : s.outcome.tags.Nodup := List.nodup_singleton _
  have hexec : exec (runAll block) e s = (.ok false, (exec (runAll block) e s).2) := by cbv
  have hafter : (exec (runAll block) e s).2.outcome = after := by cbv
  obtain ⟨hgrows, hended⟩ := outcome_grows block e hdistinct
  obtain ⟨hkept, hnodup⟩ := hgrows _ _ hexec
  obtain ⟨⟨steps, hsteps⟩, hlists⟩ := hended _ _ hexec
  obtain ⟨-, -, htags, hkeep, -⟩ := hlists steps hsteps
  rw [hafter] at hkept hnodup htags hkeep
  refine ⟨hdistinct, _, steps, hexec, hafter, hkept, hnodup, hsteps, htags, fun hmem => ?_⟩
  exact absurd (hkeep.mpr (.inr hmem)) Bool.false_ne_true

end MailFilter
