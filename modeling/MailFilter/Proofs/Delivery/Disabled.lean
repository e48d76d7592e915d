import Mathlib
import MailFilter.Proofs.Delivery.Invariant
import MailFilter.Proofs.Delivery.Simulation

/-!
# Runs while variables are disabled

While variables are disabled nothing is stored, and texts are taken as they are written. So `set`
commands do nothing but leave a line in the log, and captures are not kept.

- `stepInvariant_disabled`: no step changes the store.
- `Action.exec_run_disabled`: an action is recorded as it is written.
- `Command.follows_disabled`: `set` commands may be left out of a block.
- `Engine.deliver_disabled`: whole deliveries, whatever comes of them.

The logs of the two deliveries differ, for a `set` command that is passed over is mentioned there.
-/

namespace MailFilter

open Delivery Run

variable {e : Surroundings} {causes : Failure → Prop}

namespace Delivery

theorem Surroundings.expanded_disabled (h : e.variablesEnabled = false) (store : Store) (t : Text) :
    e.expanded store t = t := by
  rw [expanded, h]
  rfl

theorem State.matched_disabled (h : e.variablesEnabled = false) (s : State) (matchType : MatchType)
    (groups : List Text) : s.matched e matchType groups = s := by
  refine if_neg fun hkept => ?_
  rw [h] at hkept
  exact Bool.false_ne_true hkept.2

end Delivery

/-- A command that is passed over is mentioned in the log. -/
theorem SetCommand.exec_run_disabled (h : e.variablesEnabled = false) (c : SetCommand) (s : State) :
    exec c.run e s =
      (.ok (), { s with
        journal := s.journal.write .debug variablesLogger (c.report none) }) := by
  rw [exec_run, h]
  rfl

namespace Action

theorem withArgument_argument (a : Action) : a.withArgument a.argument = a := by
  cases a <;> rfl

/-- An action is recorded as it is written. -/
theorem exec_run_disabled (h : e.variablesEnabled = false) (a : Action) (s : State) :
    exec a.run e s =
      if a = .stop then (.ok false, s)
      else (.ok true, { s with
        outcome := s.outcome.record a
        journal := a.noted a.argument s.journal }) := by
  rw [exec_run, Surroundings.expanded_disabled h]
  dsimp only
  rw [withArgument_argument]

end Action

/-- No step changes the store. -/
theorem Delivery.stepInvariant_disabled (h : e.variablesEnabled = false) (store : Store) :
    StepInvariant e fun s => s.store = store where
  matched s matchType groups hs := by rwa [State.matched_disabled h]
  set c s hs := by rwa [SetCommand.exec_run_disabled h]
  action a s hs := by
    rw [Action.exec_run_disabled h]
    split
    · exact hs
    · exact hs

/-- A block does the same without any of its `set` commands, be it that it breaks off. -/
theorem Command.follows_disabled (h : e.variablesEnabled = false) (p : SetCommand → Bool)
    (commands : List Command) :
    Follows causes (Related Eq) e e (runAll commands) (runAll (prunedIn p commands)) := by
  have hsim : Simulation Eq e e := by
    refine ⟨rfl, ?_⟩
    rintro a _ groups rfl
    rfl
  have hlooks : ∀ t, LooksSame Eq e e t := by
    rintro t a _ rfl
    rfl
  refine followsAll commands (fun test _ => ?_) (fun a _ => Action.follows (hlooks a.argument)) ?_
  · exact test.follows hsim.escorts fun t _ => (hlooks t).expandsAlike
  · intro c _ s₁ s₂ hs _
    unfold unlessPruned
    rw [SetCommand.exec_run_disabled h]
    -- whether the command is left out or not, store and outcome are as they were
    split
    · exact ⟨rfl, hs⟩
    · rw [SetCommand.exec_run_disabled h]
      exact ⟨rfl, hs⟩

namespace Engine

/-- While variables are disabled for an account, the store of a delivery is empty before and after
every passage of the script that the delivery comes to, and every action is recorded as it stands in
the script. A delivery by the script without any `set` commands has the same outcome, or breaks off
for the same cause. -/
theorem deliver_disabled {settings : VariablesSettings} {account : Option Text}
    (hoff : settings.enabledFor account = .ok false) (script : Script) (message : Message)
    (journal : Journal) :
    (∀ passage s, Meets settings script message account journal passage s →
      s.store = Store.empty ∧ (exec passage.run ⟨message, false⟩ s).2.store = Store.empty ∧
      ∀ a, passage = .command (.action a) → a ∈ script.actions ∧
        (a ≠ .stop → (exec passage.run ⟨message, false⟩ s).2.outcome = s.outcome.record a)) ∧
    (script.pruned fun _ => true).sets = [] ∧
    ∀ journal', (deliver settings (script.pruned fun _ => true) message account journal').1 =
      (deliver settings script message account journal).1 := by
  refine ⟨?_, ?_, fun journal' => ?_⟩
  -- an empty store is an invariant of single steps, and so holds at every point
  · rintro passage s ⟨enabled, messageId, hon, -, hmeets⟩
    obtain rfl := Except.ok.inj (hon.symm.trans hoff)
    have hinvariant : StepInvariant ⟨message, false⟩ fun s => s.store = Store.empty :=
      stepInvariant_disabled rfl Store.empty
    have hstore : s.store = Store.empty := hinvariant.meets hmeets (store_announced ..)
    refine ⟨hstore, hinvariant.preserves passage s hstore, ?_⟩
    rintro a rfl
    refine ⟨hmeets.mem_actions (List.mem_singleton_self a), fun hstop => ?_⟩
    show (exec (Command.run (.action a)) ⟨message, false⟩ s).2.outcome = s.outcome.record a
    rw [Command.run, Action.exec_run_disabled rfl, if_neg hstop]
  · exact (Command.setsIn_pruned (fun _ => true) script.commands).trans (List.filter_eq_nil_iff.mpr
      fun _ _ => Bool.false_ne_true)
  · exact deliver_of_follows rfl hoff hoff
      (Command.follows_disabled rfl (fun _ => true) script.commands)
      (fun _ _ => trivial) journal'

/-- The account has a switch of its own. The glob would bind captures, and one of the two `set`
commands is in a block. -/
theorem deliver_disabled_nested :
    let settings : VariablesSettings := { accounts := .map [(.text "Ann", .bool false)] }
    let keys : Keys := ⟨["*-*"], .glob, .octet⟩
    let bind (name value : Text) : Command := .set ⟨name, value, [], .ofList []⟩
    let file : Action := .fileInto "$\x7bwho\x7d/$\x7b1\x7d"
    let block : List Command := [bind "where" "$\x7b2\x7d", .action file]
    let script : Script := ⟨"folders", [],
      [bind "who" "ann", .choice [(.header keys ["Subject"], block)] [], .action .stop]⟩
    let message : Message := ⟨[⟨"Subject", .ok (.ok "lean-list")⟩]⟩
    settings.enabledFor (some "ann") = .ok false ∧
      (∃ s, Meets settings script message (some "ann") .empty (.command (.action file)) s ∧
        s.store = Store.empty ∧
        (exec (Command.action file).run ⟨message, false⟩ s).2.outcome = s.outcome.record file) ∧
      (deliver settings script message (some "ann") .empty).1 =
        .ok { folders := ["$\x7bwho\x7d/$\x7b1\x7d"], stopped := true } := by
  intro settings keys bind file block script message
  have hoff : settings.enabledFor (some "ann") = .ok false := by cbv
  have hset : ∀ name value s, ∃ t, exec (bind name value).run ⟨message, false⟩ s = (.ok true, t) :=
    fun name value s => ⟨_, by rw [Command.run]; rfl⟩
  have htest : ∀ s, ∃ t,
      exec (Test.header keys ["Subject"]).evaluate ⟨message, false⟩ s = (.ok true, t) :=
    fun s => ⟨_, Prod.ext (by cbv) rfl⟩
  have hmeets : ∃ s,
      Meets settings script message (some "ann") .empty (.command (.action file)) s := by
    obtain ⟨t, ht⟩ := hset "who" "ann"
      (announced ⟨message, false⟩ (start (some "ann") none .empty))
    obtain ⟨u, hu⟩ := htest t
    obtain ⟨v, hv⟩ := hset "where" "$\x7b2\x7d" u
    have hid : message.value? "Message-ID" = .ok none := by cbv
    exact ⟨v, false, none, hoff, hid,
      .head (.rest ht) (.head .first (.head (.chosen hu) (.head (.rest hv) (.single .first))))⟩
  obtain ⟨hpoints, -, hpruned⟩ := deliver_disabled hoff script message .empty
  obtain ⟨s, hs⟩ := hmeets
  obtain ⟨hstore, -, haction⟩ := hpoints _ s hs
  refine ⟨hoff, ⟨s, hs, hstore, (haction file rfl).2 (by decide)⟩, ?_⟩
  rw [← hpruned .empty]
  cbv

end Engine

end MailFilter
