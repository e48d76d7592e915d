import Mathlib
import MailFilter.Delivery.Arrival
import MailFilter.Proofs.Delivery.Invariant

/-!
# What the log knows of deliveries

While a script runs the log knows the account and the message. It knows neither before that nor
afterwards, be it that the script breaks off, so that what is recorded of one delivery is never taken
for a record of another one.

- `Journal.Continues`: records were added in one context, which still holds.
- `Delivery.stepInvariant_continues`: no step leaves the context, and none touches older records.
- `Arrival.logContext`: what there is to be known of a delivery.
- `Engine.receive_records`: what one delivery adds to the log.
- `Engine.receiveAll_in_context`: any number of deliveries.
-/

namespace MailFilter

namespace Journal

/-- Records were added to those of before, all of them in a context that still holds. -/
structure Continues (context : LogContext) (before : List LogRecord) (j : Journal) : Prop where
  context_eq : j.context = context
  records_eq : ∃ new, j.records = before ++ new ∧ ∀ r ∈ new, r.context = context

variable {context : LogContext} {before : List LogRecord} {j : Journal}

theorem Continues.refl (j : Journal) : j.Continues j.context j.records :=
  ⟨rfl, [], (List.append_nil _).symm, List.forall_mem_nil _⟩

theorem Continues.write (h : j.Continues context before) (level : Level) (logger message : Text) :
    (j.write level logger message).Continues context before := by
  -- a new record takes over the context, which is the one that holds
  obtain ⟨new, hrecords, hnew⟩ := h.records_eq
  refine ⟨h.context_eq, new ++ [⟨level, logger, message, j.context⟩], ?_, ?_⟩
  · rw [records_write, hrecords, List.append_assoc]
  · rw [List.forall_mem_append]
    exact ⟨hnew, List.forall_mem_singleton.mpr h.context_eq⟩

end Journal

/-- Only the text of `log` is repeated in the log. -/
theorem Action.continues_noted {context : LogContext} {before : List LogRecord} {j : Journal}
    (h : j.Continues context before) (a : Action) (argument : Text) :
    (a.noted argument j).Continues context before := by
  unfold noted
  split
  · exact h.write ..
  · exact h

open Delivery Run

variable {e : Surroundings} {context : LogContext} {before : List LogRecord}

/-- No step leaves the context, and none touches the records of before. -/
theorem Delivery.stepInvariant_continues :
    StepInvariant e fun s => s.journal.Continues context before where
  matched s matchType groups hs := by
    unfold State.matched
    split
    · exact hs.write ..
    · exact hs
  set c s hs := by
    rw [SetCommand.exec_run]
    split
    · exact hs.write ..
    · exact hs
  action a s hs := by
    rw [Action.exec_run]
    split
    · exact hs
    · exact Action.continues_noted hs ..

namespace Engine

theorem continues_announced {s : State} (hs : s.journal.Continues context before) :
    (announced e s).journal.Continues context before := by
  unfold announced
  split
  · exact hs
  · exact hs.write ..

/-- A whole script stays in the context, be it that it breaks off. -/
theorem preserves_runScript (script : Script) :
    Preserves e (fun s => s.journal.Continues context before) (runScript script) := by
  intro s hs
  have hblock := (stepInvariant_continues (e := e)).preserves_block script.commands
    (announced e s) (continues_announced hs)
  rw [exec_runScript, runCommands]
  rcases hexec : exec (Command.runAll script.commands) e (announced e s) with ⟨failure | finished, t⟩
  · rw [exec_bind_of_error hexec]
    rwa [hexec] at hblock
  · rw [exec_bind_of_ok hexec]
    rw [hexec] at hblock
    -- an early end is noted in the outcome, and nowhere in the log
    cases finished <;> exact hblock

/-- With nothing known before, the log knows of a delivery what belongs to it and nothing else. -/
theorem continues_start {journal : Journal} (h : journal.context = [])
    (account messageId : Option Text) :
    (start account messageId journal).journal.Continues (deliveryContext account messageId)
      journal.records := by
  have hcontext : (start account messageId journal).journal.context =
      deliveryContext account messageId := by
    show journal.context.update (deliveryContext account messageId) = _
    rw [h]
    rfl
  rw [← hcontext]
  exact .refl (start account messageId journal).journal

end Engine

/-- What there is to be known of a delivery, unless it cannot be made out. -/
def Arrival.logContext (a : Arrival) : Except Fault LogContext := do
  let message ← a.mail.read
  let messageId ← message.value? "Message-ID"
  return [("account", .text (a.account.getD [])), ("message_id", .text (messageId.getD []))]

theorem Arrival.logContext_eq {a : Arrival} {message : Message} {messageId : Option Text}
    (hmessage : a.mail.read = .ok message) (hid : message.value? "Message-ID" = .ok messageId) :
    a.logContext = .ok (Engine.deliveryContext a.account messageId) := by
  unfold logContext
  rw [hmessage]
  show (message.value? "Message-ID" >>= _) = _
  rw [hid]
  rfl

namespace Engine

variable {settings : VariablesSettings} {journal : Journal}

/-- What one delivery adds to the log is about that delivery, and the context is empty afterwards. -/
theorem receive_records (settings : VariablesSettings) (h : journal.context = []) (a : Arrival) :
    (receive settings a journal).2.context = [] ∧
    ∃ new, (receive settings a journal).2.records = journal.records ++ new ∧
      ∀ r ∈ new, a.logContext = .ok r.context := by
  have hnothing : ∃ new, journal.records = journal.records ++ new ∧
      ∀ r ∈ new, a.logContext = .ok r.context :=
    ⟨[], (List.append_nil _).symm, List.forall_mem_nil _⟩
  unfold receive
  cases hmessage : a.mail.read with
  -- mail that cannot be read is no delivery, and nothing is recorded
  | error fault => exact ⟨h, hnothing⟩
  | ok message =>
    dsimp only
    cases hprepared : prepare settings message a.account with
    | error fault =>
      rw [deliver_of_not_prepared hprepared]
      exact ⟨h, hnothing⟩
    | ok found =>
      obtain ⟨enabled, messageId⟩ := found
      have hid := (prepare_eq_ok_iff.mp hprepared).2
      have hkept := preserves_runScript (e := ⟨message, enabled⟩) a.script
        (start a.account messageId journal) (continues_start h a.account messageId)
      obtain ⟨new, hrecords, hnew⟩ := hkept.records_eq
      rw [deliver_of_prepared hprepared]
      refine ⟨rfl, new, hrecords, fun r hr => ?_⟩
      rw [hnew r hr]
      exact Arrival.logContext_eq hmessage hid

/-- Wherever a delivery comes to, the log knows of that delivery. -/
theorem logContext_of_meets (h : journal.context = []) {a : Arrival} {message : Message}
    (hmessage : a.mail.read = .ok message) {passage : Passage} {s : State}
    (hmeets : Meets settings a.script message a.account journal passage s) :
    a.logContext = .ok s.journal.context := by
  obtain ⟨enabled, messageId, -, hid, hmeets⟩ := hmeets
  have hstart := continues_announced (e := ⟨message, enabled⟩)
    (continues_start h a.account messageId)
  have hpoint := stepInvariant_continues.meets hmeets hstart
  rw [hpoint.context_eq]
  exact Arrival.logContext_eq hmessage hid

theorem receiveAll_append (settings : VariablesSettings) (before after : List Arrival)
    (journal : Journal) :
    (receiveAll settings (before ++ after) journal).2 =
      (receiveAll settings after (receiveAll settings before journal).2).2 := by
  induction before generalizing journal with
  | nil => rfl
  | cons a rest ih => exact ih (receive settings a journal).2

/-- Deliveries leave the context empty, and the records of before as they are. -/
theorem receiveAll_records (settings : VariablesSettings) (h : journal.context = [])
    (arrivals : List Arrival) :
    (receiveAll settings arrivals journal).2.context = [] ∧
    journal.records <+: (receiveAll settings arrivals journal).2.records := by
  induction arrivals generalizing journal with
  | nil => exact ⟨h, List.prefix_refl _⟩
  | cons a rest ih =>
    obtain ⟨hleft, new, hrecords, -⟩ := receive_records settings h a
    obtain ⟨hempty, hrest⟩ := ih hleft
    refine ⟨hempty, List.IsPrefix.trans ?_ hrest⟩
    rw [hrecords]
    exact List.prefix_append _ _

/-- Any number of deliveries by one engine, some of which may break off: from one that begins without
a context the log knows, at every point of its script, the account and the message of that delivery
and nothing else. So it does in every record that is added until the delivery is over, and those
records stay. After each delivery the context is empty. -/
theorem receiveAll_in_context (h : journal.context = []) (settings : VariablesSettings)
    (arrivals : List Arrival) :
    (receiveAll settings arrivals journal).2.context = [] ∧
    ∀ before a after, arrivals = before ++ a :: after →
      let begun := (receiveAll settings before journal).2
      let ended := (receive settings a begun).2
      begun.context = [] ∧ ended.context = [] ∧
      (∀ message, a.mail.read = .ok message → ∀ passage s,
        Meets settings a.script message a.account begun passage s →
          a.logContext = .ok s.journal.context) ∧
      ∃ new later, ended.records = begun.records ++ new ∧
        (receiveAll settings arrivals journal).2.records = begun.records ++ new ++ later ∧
        ∀ r ∈ new, a.logContext = .ok r.context := by
  refine ⟨(receiveAll_records settings h arrivals).1, ?_⟩
  rintro before a after rfl begun ended
  have hbegun : begun.context = [] := (receiveAll_records settings h before).1
  -- the deliveries before leave an empty context, and those after add records only
  obtain ⟨hended, new, hrecords, hnew⟩ := receive_records settings hbegun a
  obtain ⟨later, hlater⟩ := (receiveAll_records settings hended after).2
  refine ⟨hbegun, hended, ?_, new, later, hrecords, ?_, hnew⟩
  · intro message hmessage passage s hmeets
    exact logContext_of_meets hbegun hmessage hmeets
  · rw [receiveAll_append, ← hrecords]
    exact hlater.symm

/-- The first delivery breaks off after one record, because a lone surrogate has no encoding. The
second one has neither an account nor an identity. -/
theorem receiveAll_in_context_broken_off :
    let broken : Arrival :=
      ⟨⟨"odd", [], [.action (.log "one"), .set ⟨"x", [.surrogate 0], [], .ofList [.encodeUrl]⟩]⟩,
        .message ⟨[⟨"Message-ID", .ok (.ok "<1@lean>")⟩]⟩, some "ann"⟩
    let plain : Arrival := ⟨⟨"plain", [], [.action (.log "two")]⟩, .octets [], none⟩
    let begun := (receiveAll {} [broken] .empty).2
    let ended := (receive {} plain begun).2
    (receiveAll {} [broken, plain] .empty).1 =
      [.error (.fault .unencodable), .ok { logs := ["two"] }] ∧
    begun.records.map LogRecord.context =
      [([("account", .text "ann"), ("message_id", .text "<1@lean>")] : LogContext)] ∧
    begun.context = [] ∧ ended.context = [] ∧
    ∃ new, ended.records = begun.records ++ new ∧ new.length = 1 ∧
      ∀ r ∈ new, r.context = ([("account", .text []), ("message_id", .text [])] : LogContext) := by
  intro broken plain begun ended
  have hempty : Journal.empty.context = [] := rfl
  have hcontext := receiveAll_in_context hempty {} [broken, plain]
  obtain ⟨hbegun, hended, -, new, -, hrecords, -, hnew⟩ := hcontext.2 [broken] plain [] rfl
  have hone : begun.records.length = 1 := by
    dsimp +zetaDelta only
    cbv
  have htwo : ended.records.length = 2 := by
    dsimp +zetaDelta only
    cbv
  have hplain : plain.logContext = .ok [("account", .text []), ("message_id", .text [])] := by
    dsimp +zetaDelta only
    cbv
  refine ⟨?_, ?_, hbegun, hended, new, hrecords, ?_, fun r hr => ?_⟩
  · dsimp +zetaDelta only
    cbv
  · dsimp +zetaDelta only
    cbv
  · have hlength : ended.records.length = (begun.records ++ new).length :=
      congrArg List.length hrecords
    rw [htwo, List.length_append, hone] at hlength
    exact (Nat.add_left_cancel hlength).symm
  · exact Except.ok.inj ((hnew r hr).symm.trans hplain)

end Engine

end MailFilter
