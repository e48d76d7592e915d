import MailFilter.Delivery.Engine

/-!
# What the steps of a run do

A step is a reader over a state that may break off. Here each operation of a run is given as a
function of the surroundings and the state, so that proofs about scripts need not open the layers.

- `Run.exec`: the answer of a step, and the state in which it ends.
- `Run.exec_bind`: one step after another.
- `Keys.exec_decide`: a test that compares values with keys.
- `SetCommand.exec_run`, `Action.exec_run`: the commands without blocks.
-/

namespace MailFilter

namespace Delivery

/-- A text as it is at some point of a run: expanded, or as written while variables are disabled. -/
def Surroundings.expanded (e : Surroundings) (store : Store) (t : Text) : Text :=
  if e.variablesEnabled then Template.expand store t else t

namespace Run

variable {α β : Type}

/-- The answer of a step, and the state in which it ends. -/
def exec (r : Run α) (e : Surroundings) (s : State) : Except Failure α × State :=
  (r e).run.run s

@[simp] theorem exec_pure (a : α) (e : Surroundings) (s : State) :
    exec (pure a) e s = (.ok a, s) := rfl

/-- The second step starts where the first one ends, unless that one broke off. -/
theorem exec_bind (r : Run α) (f : α → Run β) (e : Surroundings) (s : State) :
    exec (r >>= f) e s =
      match exec r e s with
      | (.ok a, t) => exec (f a) e t
      | (.error failure, t) => (.error failure, t) := by
  unfold exec ExceptT.run StateT.run
  simp only [bind, ReaderT.bind, ExceptT.bind, ExceptT.mk, StateT.bind, ExceptT.bindCont]
  rcases r e s with ⟨result, t⟩
  cases result <;> rfl

/-- Behind a step that answers, the next one starts where that one ends. -/
theorem exec_bind_of_ok {r : Run α} {f : α → Run β} {e : Surroundings} {s t : State} {a : α}
    (h : exec r e s = (.ok a, t)) : exec (r >>= f) e s = exec (f a) e t := by
  rw [exec_bind, h]

/-- A step that breaks off ends the run in its own state. -/
theorem exec_bind_of_error {r : Run α} {f : α → Run β} {e : Surroundings} {s t : State}
    {failure : Failure} (h : exec r e s = (.error failure, t)) :
    exec (r >>= f) e s = (.error failure, t) := by
  rw [exec_bind, h]

/-- Two steps answer together only if each of them does. -/
theorem exec_bind_eq_ok_iff {r : Run α} {f : α → Run β} {e : Surroundings} {s t : State} {b : β} :
    exec (r >>= f) e s = (.ok b, t) ↔
      ∃ a u, exec r e s = (.ok a, u) ∧ exec (f a) e u = (.ok b, t) := by
  rw [exec_bind]
  constructor
  · intro h
    split at h
    · next a u hr => exact ⟨a, u, hr, h⟩
    · simp at h
  · rintro ⟨a, u, hr, hf⟩
    rw [hr]
    exact hf

@[simp] theorem exec_ofExcept (r : Except Failure α) (e : Surroundings) (s : State) :
    exec (ofExcept r) e s = (r, s) := by
  cases r <;> rfl

@[simp] theorem exec_ofFault (r : Except Fault α) (e : Surroundings) (s : State) :
    exec (ofFault r) e s = (r.mapError .fault, s) :=
  exec_ofExcept ..

@[simp] theorem exec_read (e : Surroundings) (s : State) : exec read e s = (.ok e, s) := rfl

@[simp] theorem exec_note (level : Level) (logger message : Text) (e : Surroundings) (s : State) :
    exec (note level logger message) e s =
      (.ok (), { s with journal := s.journal.write level logger message }) := rfl

@[simp] theorem exec_variablesEnabled (e : Surroundings) (s : State) :
    exec variablesEnabled e s = (.ok e.variablesEnabled, s) := rfl

@[simp] theorem exec_store (e : Surroundings) (s : State) : exec store e s = (.ok s.store, s) := rfl

@[simp] theorem exec_setStore (store : Store) (e : Surroundings) (s : State) :
    exec (setStore store) e s = (.ok (), { s with store }) := rfl

@[simp] theorem exec_expand (t : Text) (e : Surroundings) (s : State) :
    exec (expand t) e s = (.ok (e.expanded s.store t), s) := by
  unfold expand Surroundings.expanded
  rw [exec_bind_of_ok (exec_variablesEnabled e s)]
  split <;> rfl

@[simp] theorem exec_expandAll (ts : List Text) (e : Surroundings) (s : State) :
    exec (expandAll ts) e s = (.ok (ts.map (e.expanded s.store)), s) := by
  unfold expandAll
  -- a text is expanded in the state in which the first one was, for expanding changes nothing
  induction ts with
  | nil => rfl
  | cons t ts ih =>
    rw [List.mapM_cons, exec_bind_of_ok (exec_expand t e s), exec_bind_of_ok ih]
    rfl

/-- Operations on values that touch no state may be made one after another. -/
theorem exec_mapM_ofFault (f : α → Except Fault β) (as : List α) (e : Surroundings) (s : State) :
    exec (as.mapM fun a => ofFault (f a)) e s = ((as.mapM f).mapError .fault, s) := by
  induction as with
  | nil => rfl
  | cons a as ih =>
    rw [List.mapM_cons, List.mapM_cons]
    cases ha : f a with
    | error fault =>
      have hfirst : exec (ofFault (f a)) e s = (.error (.fault fault), s) := by
        rw [exec_ofFault, ha]; rfl
      rw [exec_bind_of_error (ha ▸ hfirst)]
      rfl
    | ok b =>
      have hfirst : exec (ofFault (f a)) e s = (.ok b, s) := by rw [exec_ofFault, ha]; rfl
      rw [exec_bind_of_ok (ha ▸ hfirst), exec_bind, ih]
      cases as.mapM f <;> rfl

end Run

end Delivery

namespace Message

/-- The texts of all fields of some names. -/
def textsOf (m : Message) (names : List Text) : Except Failure (List Text) :=
  ((names.mapM m.values).mapError .fault).map List.flatten

/-- Whether all fields of some names are present. A field that cannot be made out is met only if
those before it are present. -/
def hasAll (m : Message) : List Text → Except Failure Bool
  | [] => .ok true
  | name :: names =>
    match m.has name with
    | .ok true => m.hasAll names
    | .ok false => .ok false
    | .error fault => .error (.fault fault)

end Message

/-- This part of each address in the fields of some names. -/
def AddressPart.textsOf (part : AddressPart) (m : Message) (names : List Text) :
    Except Failure (List Text) :=
  (m.textsOf names).map fun values => (AddressList.ofValues values).map part.select

namespace Delivery

open Run

/-- A header test looks for the fields that its names stand for once they are expanded. -/
theorem exec_headerValues (names : List Text) (e : Surroundings) (s : State) :
    exec (headerValues names) e s =
      (e.message.textsOf (names.map (e.expanded s.store)), s) := by
  unfold headerValues Message.textsOf
  rw [exec_bind_of_ok (exec_expandAll names e s), exec_bind_of_ok (exec_read e s), exec_bind,
    exec_mapM_ofFault]
  cases (names.map (e.expanded s.store)).mapM e.message.values <;> rfl

/-- So does an address test, which cuts each address down to a part. -/
theorem exec_addressValues (part : AddressPart) (names : List Text) (e : Surroundings)
    (s : State) :
    exec (addressValues part names) e s =
      (part.textsOf e.message (names.map (e.expanded s.store)), s) := by
  unfold addressValues AddressPart.textsOf
  rw [exec_bind, exec_headerValues]
  cases e.message.textsOf (names.map (e.expanded s.store)) <;> rfl

/-- Whether fields are present is asked in order, and no further than the first that is not. -/
theorem exec_allPresent (names : List Text) (e : Surroundings) (s : State) :
    exec (allPresent names) e s = (e.message.hasAll names, s) := by
  induction names with
  | nil => rfl
  | cons name names ih =>
    unfold allPresent Message.hasAll
    rw [exec_bind_of_ok (exec_read e s), exec_bind, exec_ofFault]
    cases e.message.has name with
    | error fault => rfl
    | ok found =>
      cases found with
      | false => rfl
      | true => exact ih

/-- The state after a match. The groups of a glob are kept, unless variables are disabled. -/
def State.matched (s : State) (e : Surroundings) (matchType : MatchType) (groups : List Text) :
    State :=
  if matchType = .glob ∧ e.variablesEnabled = true then
    { s with
      store := s.store.capture groups
      journal := s.journal.write .debug variablesLogger
        ("bound " ++ Text.ofNat (min groups.length maxCaptures) ++ " match capture(s)") }
  else s

/-- Only the match of a glob, and only with variables enabled, changes the store. -/
theorem State.store_matched (s : State) (e : Surroundings) (matchType : MatchType)
    (groups : List Text) :
    (s.matched e matchType groups).store =
      if matchType = .glob then s.store.captureIf e.variablesEnabled groups else s.store := by
  unfold State.matched Store.captureIf
  by_cases hglob : matchType = .glob <;> by_cases hon : e.variablesEnabled = true <;>
    simp [hglob, hon]

@[simp] theorem State.outcome_matched (s : State) (e : Surroundings) (matchType : MatchType)
    (groups : List Text) : (s.matched e matchType groups).outcome = s.outcome := by
  unfold State.matched
  split <;> rfl

end Delivery

open Delivery Run

/-- Keys are expanded, then values are taken, then the first pair that matches decides. -/
theorem Keys.exec_decide {k : Keys} {r : Run (List Text)} {e : Surroundings} {s : State}
    {values : Except Failure (List Text)} (h : exec r e s = (values, s)) :
    exec (k.decide r) e s =
      match values.bind (k.firstMatch (k.keys.map (e.expanded s.store))) with
      | .ok none => (.ok false, s)
      | .ok (some groups) => (.ok true, s.matched e k.matchType groups)
      | .error failure => (.error failure, s) := by
  unfold Keys.decide
  rw [exec_bind_of_ok (exec_expandAll k.keys e s)]
  -- taking the values may break off, then the comparison; only a glob leaves groups
  cases values with
  | error failure => rw [exec_bind_of_error h]; rfl
  | ok values =>
    rw [exec_bind_of_ok h, exec_bind, exec_ofExcept]
    show _ = match k.firstMatch (k.keys.map (e.expanded s.store)) values with
      | .ok none => _
      | .ok (some groups) => _
      | .error failure => _
    cases k.firstMatch (k.keys.map (e.expanded s.store)) values with
    | error failure => rfl
    | ok found =>
      cases found with
      | none => rfl
      | some groups =>
        unfold State.matched
        dsimp only
        by_cases hglob : k.matchType = .glob
        · rw [if_pos hglob, exec_bind_of_ok (exec_variablesEnabled e s)]
          by_cases hon : e.variablesEnabled = true
          · rw [if_pos hon, if_pos ⟨hglob, hon⟩]
            simp only [exec_bind, exec_store, exec_setStore, exec_note, exec_pure]
          · rw [if_neg hon, if_neg fun h => hon h.2]
            rfl
        · rw [if_neg hglob, if_neg fun h => hglob h.1]
          rfl

/-- The names of a test for presence are expanded before any field is looked for. -/
theorem Test.exec_present (names : List Text) (e : Surroundings) (s : State) :
    exec (Test.present names).evaluate e s =
      (e.message.hasAll (names.map (e.expanded s.store)), s) := by
  rw [Test.evaluate, exec_bind_of_ok (exec_expandAll names e s), exec_allPresent]

/-- What the log says of a command that has run. -/
def SetCommand.report (c : SetCommand) : Option Text → Text
  | some value => "set " ++ c.name.quoted ++ " = " ++ value.quoted
  | none => "variables disabled, skipping set " ++ c.name.quoted

/-- While variables are enabled the expanded value goes through the modifiers and is bound. -/
theorem SetCommand.execute_enabled_eq_ok_iff {c : SetCommand} {s s' : Store}
    {result : Option Text} :
    c.execute true s = .ok (result, s') ↔
      ∃ value, c.modifiers.apply (Template.expand s c.value) = .ok value ∧
        result = some value ∧ s' = s.bind c.name value := by
  unfold execute Store.assignModified
  cases c.modifiers.apply (Template.expand s c.value) with
  | error fault => simp [bind, Except.bind]
  | ok value => simp [bind, Except.bind, pure, Except.pure, eq_comm]

/-- A `set` command changes the store and the log, or breaks off with both as they were. -/
theorem SetCommand.exec_run (c : SetCommand) (e : Surroundings) (s : State) :
    exec c.run e s =
      match c.execute e.variablesEnabled s.store with
      | .ok (result, store) =>
        (.ok (), { s with
          store
          journal := s.journal.write .debug variablesLogger (c.report result) })
      | .error failure => (.error failure, s) := by
  unfold SetCommand.run
  rw [exec_bind_of_ok (exec_variablesEnabled e s), exec_bind_of_ok (exec_store e s), exec_bind,
    exec_ofExcept]
  rcases c.execute e.variablesEnabled s.store with failure | ⟨result, store⟩
  · rfl
  · cases result <;> rfl

/-- Inversion of a `set` command that does not break off. -/
theorem SetCommand.execute_of_exec_run {c : SetCommand} {e : Surroundings} {s t : State}
    (h : exec c.run e s = (.ok (), t)) :
    ∃ result, c.execute e.variablesEnabled s.store = .ok (result, t.store) ∧
      t.outcome = s.outcome := by
  rw [exec_run] at h
  split at h
  · next result store hexecute =>
    cases h
    exact ⟨result, hexecute, rfl⟩
  · simp at h

/-- What an action writes to the log: only the text of `log` is repeated there. -/
def Action.noted (a : Action) (argument : Text) (j : Journal) : Journal :=
  if a matches .log _ then j.write .info engineLogger ("script log: " ++ argument) else j

/-- An action other than `stop` is added to the outcome, with its argument expanded in the store as
it is. -/
theorem Action.exec_run (a : Action) (e : Surroundings) (s : State) :
    exec a.run e s =
      if a = .stop then (.ok false, s)
      else
        let argument := e.expanded s.store a.argument
        (.ok true, { s with
          outcome := s.outcome.record (a.withArgument argument)
          journal := a.noted argument s.journal }) := by
  unfold Action.run
  split
  · rfl
  · rw [exec_bind_of_ok (exec_expand a.argument e s)]
    cases a <;> rfl

namespace Engine

/-- The commands of a script, and the record of an early end. -/
def runCommands (script : Script) : Run Unit := do
  let finished ← Command.runAll script.commands
  unless finished do
    modify fun s => { s with outcome := s.outcome.record .stop }

/-- The log says at the beginning if variables are disabled. -/
def announced (e : Surroundings) (s : State) : State :=
  if e.variablesEnabled then s
  else { s with
    journal := s.journal.write .info engineLogger
      "Variables disabled, set and $\x7b...\x7d are left unevaluated" }

/-- Apart from what it announces, a script is its commands. -/
theorem exec_runScript (script : Script) (e : Surroundings) (s : State) :
    exec (runScript script) e s = exec (runCommands script) e (announced e s) := by
  unfold runScript announced
  rw [exec_bind_of_ok (exec_variablesEnabled e s)]
  cases e.variablesEnabled <;> rfl

@[simp] theorem store_announced (e : Surroundings) (s : State) :
    (announced e s).store = s.store := by
  unfold announced
  split <;> rfl

@[simp] theorem outcome_announced (e : Surroundings) (s : State) :
    (announced e s).outcome = s.outcome := by
  unfold announced
  split <;> rfl

/-- The state in which a script begins. -/
def start (account messageId : Option Text) (journal : Journal) : State :=
  ⟨Store.empty, {}, journal.enter (deliveryContext account messageId)⟩

/-- Before a script the switch is made out, and the identity of the message. -/
theorem prepare_eq_ok_iff {settings : VariablesSettings} {message : Message}
    {account messageId : Option Text} {enabled : Bool} :
    prepare settings message account = .ok (enabled, messageId) ↔
      settings.enabledFor account = .ok enabled ∧ message.value? "Message-ID" = .ok messageId := by
  unfold prepare
  cases settings.enabledFor account with
  | error fault => simp [bind, Except.bind]
  | ok on =>
    cases message.value? "Message-ID" with
    | error fault => simp [bind, Except.bind]
    | ok found => simp [bind, Except.bind, pure, Except.pure]

/-- If the switch or the identity of the message cannot be made out, no script is run. -/
theorem deliver_of_not_prepared {settings : VariablesSettings} {message : Message}
    {account : Option Text} {fault : Fault} (h : prepare settings message account = .error fault)
    (script : Script) (journal : Journal) :
    deliver settings script message account journal = (.error (.fault fault), journal) := by
  unfold deliver
  rw [h]

/-- The context is left in any case, also where the script breaks off. -/
theorem deliver_of_prepared {settings : VariablesSettings} {message : Message}
    {account messageId : Option Text} {enabled : Bool}
    (h : prepare settings message account = .ok (enabled, messageId)) (script : Script)
    (journal : Journal) :
    deliver settings script message account journal =
      let (result, t) := exec (runScript script) ⟨message, enabled⟩ (start account messageId journal)
      (result.map fun _ => t.outcome, t.journal.leave) := by
  unfold deliver
  rw [h]
  rfl

/-- A delivery has an outcome if the switch and the identity of the message can be made out and the
script does not break off. -/
theorem deliver_eq_ok_iff {settings : VariablesSettings} {script : Script} {message : Message}
    {account : Option Text} {journal : Journal} {outcome : Outcome} :
    (deliver settings script message account journal).1 = .ok outcome ↔
      ∃ enabled messageId t, settings.enabledFor account = .ok enabled ∧
        message.value? "Message-ID" = .ok messageId ∧
        exec (runScript script) ⟨message, enabled⟩ (start account messageId journal) =
          (.ok (), t) ∧
        t.outcome = outcome := by
  constructor
  · intro h
    -- without a switch or an identity there is no outcome
    cases hprepared : prepare settings message account with
    | error fault =>
      rw [deliver_of_not_prepared hprepared] at h
      contradiction
    | ok found =>
      obtain ⟨enabled, messageId⟩ := found
      rw [deliver_of_prepared hprepared] at h
      obtain ⟨hon, hid⟩ := prepare_eq_ok_iff.mp hprepared
      rcases hexec : exec (runScript script) ⟨message, enabled⟩
        (start account messageId journal) with ⟨_ | _, t⟩
      · rw [hexec] at h
        contradiction
      · rw [hexec] at h
        exact ⟨enabled, messageId, t, hon, hid, hexec, Except.ok.inj h⟩
  · rintro ⟨enabled, messageId, t, hon, hid, hexec, houtcome⟩
    rw [deliver_of_prepared (prepare_eq_ok_iff.mpr ⟨hon, hid⟩), hexec]
    exact congrArg Except.ok houtcome

end Engine

end MailFilter
