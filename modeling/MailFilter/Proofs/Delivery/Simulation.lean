import MailFilter.Proofs.Delivery.Following

/-!
# Two runs side by side

Two runs of one script, or of a script and a part of it, may hold different stores. If every text
that they expand looks the same to both of them, they take the same branches and record the same
outcome.

- `Related`: outcomes are the same, and stores are in a relation.
- `Simulates`: from related states, what the first step answers the second one answers too, and the
  states stay related. Nothing is said of a first step that breaks off.
- `Simulation`: what a relation of stores has to keep while tests match.
- `Command.simulatesAll`: blocks, the second run without some of the `set` commands.
- `Engine.deliver_of_follows`, `Engine.deliver_of_simulates`: whole deliveries.
-/

namespace MailFilter

namespace Delivery

open Run

variable {rel : Store → Store → Prop} {e₁ e₂ : Surroundings} {α : Type}

/-- The outcomes of two states are the same, and the stores are in the relation. -/
def Related (rel : Store → Store → Prop) (s₁ s₂ : State) : Prop :=
  rel s₁.store s₂.store ∧ s₁.outcome = s₂.outcome

/-- What the first step answers the second one answers too, and the states stay related. -/
def Simulates (rel : Store → Store → Prop) (e₁ e₂ : Surroundings) (r₁ r₂ : Run α) : Prop :=
  ∀ s₁ s₂ a t₁, Related rel s₁ s₂ → exec r₁ e₁ s₁ = (.ok a, t₁) →
    ∃ t₂, exec r₂ e₂ s₂ = (.ok a, t₂) ∧ Related rel t₁ t₂

/-- A step simulates another one if the first one, unless it breaks off, is followed. -/
theorem simulates_iff {r₁ r₂ : Run α} :
    Simulates rel e₁ e₂ r₁ r₂ ↔ Follows (fun _ => False) (Related rel) e₁ e₂ r₁ r₂ := by
  constructor
  · intro h s₁ s₂ hs hcauses
    rcases h₁ : exec r₁ e₁ s₁ with ⟨failure | a, t₁⟩
    · rw [h₁] at hcauses
      exact (hcauses failure rfl).elim
    · obtain ⟨t₂, h₂, ht⟩ := h s₁ s₂ a t₁ hs h₁
      rw [h₂]
      exact ⟨rfl, ht⟩
  · intro h s₁ s₂ a t₁ hs h₁
    have hfollows := h s₁ s₂ hs
    rcases h₂ : exec r₂ e₂ s₂ with ⟨result, t₂⟩
    rw [h₁, h₂] at hfollows
    obtain ⟨rfl, ht⟩ := hfollows (.ok a)
    exact ⟨t₂, rfl, ht⟩

/-- What a relation of stores has to keep while tests are decided. -/
structure Simulation (rel : Store → Store → Prop) (e₁ e₂ : Surroundings) : Prop where
  /-- Both runs look at the same message. -/
  message : e₁.message = e₂.message
  /-- Both runs keep the groups of the same glob, or do not keep them. -/
  capture : ∀ a b groups, rel a b →
    rel (a.captureIf e₁.variablesEnabled groups) (b.captureIf e₂.variablesEnabled groups)

/-- A text looks the same to both runs. -/
def LooksSame (rel : Store → Store → Prop) (e₁ e₂ : Surroundings) (t : Text) : Prop :=
  ∀ a b, rel a b → e₁.expanded a t = e₂.expanded b t

theorem LooksSame.expandsAlike {t : Text} (h : LooksSame rel e₁ e₂ t) :
    ExpandsAlike (Related rel) e₁ e₂ t :=
  fun s₁ s₂ hs => h s₁.store s₂.store hs.1

theorem Simulation.escorts (hsim : Simulation rel e₁ e₂) : Escorts (Related rel) e₁ e₂ where
  message := hsim.message
  matched := by
    intro s₁ s₂ matchType groups hs
    refine ⟨?_, by rw [State.outcome_matched, State.outcome_matched, hs.2]⟩
    rw [State.store_matched, State.store_matched]
    split
    · exact hsim.capture s₁.store s₂.store groups hs.1
    · exact hs.1

end Delivery

open Delivery Run

variable {causes : Failure → Prop} {rel : Store → Store → Prop} {e₁ e₂ : Surroundings}

/-- An action of which the argument looks the same to both runs is recorded alike. -/
theorem Action.follows {a : Action} (ha : LooksSame rel e₁ e₂ a.argument) :
    Follows causes (Related rel) e₁ e₂ a.run a.run := by
  intro s₁ s₂ hs _
  rw [Action.exec_run, Action.exec_run, ha s₁.store s₂.store hs.1]
  split
  · exact ⟨rfl, hs⟩
  · exact ⟨rfl, hs.1, congrArg (Outcome.record · _) hs.2⟩

/-- What a `set` command may do to related stores: the same in both runs or, where the second run
leaves it out, nothing that the relation sees. -/
def SetCommand.Tracks (rel : Store → Store → Prop) (e₁ e₂ : Surroundings)
    (p : SetCommand → Bool) (c : SetCommand) : Prop :=
  ∀ a b result a', rel a b → c.execute e₁.variablesEnabled a = .ok (result, a') →
    if p c then rel a' b
    else ∃ result' b', c.execute e₂.variablesEnabled b = .ok (result', b') ∧ rel a' b'

theorem SetCommand.Tracks.simulates {p : SetCommand → Bool} {c : SetCommand}
    (h : c.Tracks rel e₁ e₂ p) : Simulates rel e₁ e₂ c.run (Command.unlessPruned p c) := by
  intro s₁ s₂ _ t₁ hs hexec
  obtain ⟨result, hexecute, houtcome⟩ := execute_of_exec_run hexec
  have htracks := h s₁.store s₂.store result t₁.store hs.1 hexecute
  unfold Command.unlessPruned
  split at htracks
  · next hp =>
    rw [if_pos hp]
    exact ⟨s₂, rfl, htracks, houtcome.trans hs.2⟩
  · next hp =>
    obtain ⟨result', b', hexecute', hrel⟩ := htracks
    rw [if_neg hp, exec_run, hexecute']
    exact ⟨_, rfl, hrel, houtcome.trans hs.2⟩

/-- A block of which all texts look the same to both runs does the same as the pruned block. -/
theorem Command.simulatesAll {p : SetCommand → Bool} (hsim : Simulation rel e₁ e₂)
    (commands : List Command) (htexts : ∀ t ∈ textsIn commands, LooksSame rel e₁ e₂ t)
    (hsets : ∀ d ∈ setsIn commands, d.Tracks rel e₁ e₂ p) :
    Simulates rel e₁ e₂ (runAll commands) (runAll (prunedIn p commands)) := by
  refine simulates_iff.mpr (followsAll commands (fun test htest => ?_) (fun a ha => ?_) ?_)
  · refine test.follows hsim.escorts fun t ht => (htexts t ?_).expandsAlike
    exact (mem_textsIn_iff commands).mpr (.inr ⟨test, htest, ht⟩)
  · exact Action.follows (htexts a.argument ((mem_textsIn_iff commands).mpr (.inl ⟨a, ha, rfl⟩)))
  · exact fun d hd => simulates_iff.mp (hsets d hd).simulates

namespace Engine

/-- A script of which the blocks are followed records the same early end. -/
theorem runScript_follows {script other : Script}
    (h : Follows causes (Related rel) e₁ e₂ (Command.runAll script.commands)
      (Command.runAll other.commands)) :
    Follows causes (Related rel) e₁ e₂ (runScript script) (runScript other) := by
  have hcommands : Follows causes (Related rel) e₁ e₂ (runCommands script) (runCommands other) := by
    refine h.bind fun finished => ?_
    cases finished with
    | true => exact .pure ()
    | false => exact fun s₁ s₂ hs _ => ⟨rfl, hs.1, congrArg (Outcome.record · .stop) hs.2⟩
  intro s₁ s₂ hs hcauses
  rw [exec_runScript] at hcauses ⊢
  rw [exec_runScript]
  -- only the log differs where one run announces that variables are disabled
  have hannounced : Related rel (announced e₁ s₁) (announced e₂ s₂) := by
    simpa [Related] using hs
  exact hcommands _ _ hannounced hcauses

/-- Deliveries of which the runs follow each other have the same result, unless the first one breaks
off for a cause that is not meant. -/
theorem deliver_of_follows {first second : VariablesSettings} {script other : Script}
    {message : Message} {account account' : Option Text} {journal : Journal} {on₁ on₂ : Bool}
    (hempty : rel Store.empty Store.empty) (hon₁ : first.enabledFor account = .ok on₁)
    (hon₂ : second.enabledFor account' = .ok on₂)
    (hfollows : Follows causes (Related rel) ⟨message, on₁⟩ ⟨message, on₂⟩
      (Command.runAll script.commands) (Command.runAll other.commands))
    (hcauses : ErrsBy causes (deliver first script message account journal).1)
    (journal' : Journal) :
    (deliver second other message account' journal').1 =
      (deliver first script message account journal).1 := by
  cases hid : message.value? "Message-ID" with
  | error fault =>
    have hfirst : prepare first message account = .error fault := by
      rw [prepare, hon₁, hid]; rfl
    have hsecond : prepare second message account' = .error fault := by
      rw [prepare, hon₂, hid]; rfl
    rw [deliver_of_not_prepared hfirst, deliver_of_not_prepared hsecond]
  | ok messageId =>
    rw [deliver_of_prepared (prepare_eq_ok_iff.mpr ⟨hon₁, hid⟩)] at hcauses ⊢
    rw [deliver_of_prepared (prepare_eq_ok_iff.mpr ⟨hon₂, hid⟩)]
    have hrun := runScript_follows hfollows (start account messageId journal)
      (start account' messageId journal') ⟨hempty, rfl⟩
      fun failure hfailure => hcauses failure (map_eq_error_iff.mpr hfailure)
    obtain ⟨hsame, -, houtcome⟩ := hrun
    dsimp only
    rw [hsame, houtcome]

/-- From a delivery that has an outcome to one of which the run simulates it. -/
theorem deliver_of_simulates (rel : Store → Store → Prop) {first second : VariablesSettings}
    {script other : Script} {message : Message} {account account' : Option Text}
    {journal journal' : Journal} {outcome : Outcome} {on₂ : Bool}
    (hempty : rel Store.empty Store.empty)
    (hon₂ : second.enabledFor account' = .ok on₂)
    (hsim : ∀ on₁, first.enabledFor account = .ok on₁ →
      Simulates rel ⟨message, on₁⟩ ⟨message, on₂⟩ (Command.runAll script.commands)
        (Command.runAll other.commands))
    (h : (deliver first script message account journal).1 = .ok outcome) :
    (deliver second other message account' journal').1 = .ok outcome := by
  obtain ⟨on₁, -, -, hon₁, -⟩ := deliver_eq_ok_iff.mp h
  have hanswers : ErrsBy (fun _ => False) (deliver first script message account journal).1 := by
    rw [h]
    exact .ok outcome
  have hfollows := simulates_iff.mp (hsim on₁ hon₁)
  rw [deliver_of_follows hempty hon₁ hon₂ hfollows hanswers journal', h]

end Engine

end MailFilter
