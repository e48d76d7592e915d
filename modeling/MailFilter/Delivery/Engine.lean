import MailFilter.Delivery.Run
import MailFilter.Script.Reading
import MailFilter.Settings.Basic

/-!
# Deliveries

The engine runs a script against one message after another. Whether variables are enabled is asked
of the settings for each delivery. While a script runs the log knows the account and the message;
afterwards it knows neither.

- `Engine.load`: reads a script and records that it did.
- `Engine.deliver`: runs a script over a message.
-/

namespace MailFilter

open Delivery

namespace Engine

/-- Reads a script and records its name and length in the log. -/
def load (v : Value) (journal : Journal) : Except Failure (Script × Journal) := do
  let script ← Script.ofValue v
  let message := "Loaded script " ++ script.name.quoted ++ " with " ++
    Text.ofNat script.commands.length ++ " top-level command(s)"
  return (script, journal.write .debug engineLogger message)

/-- Runs the commands of a script, and records whether it ended early. -/
def runScript (script : Script) : Run Unit := do
  if !(← Run.variablesEnabled) then
    Run.note .info engineLogger "Variables disabled, set and $\x7b...\x7d are left unevaluated"
  let finished ← Command.runAll script.commands
  unless finished do
    modify fun s => { s with outcome := s.outcome.record .stop }

/-- What the log knows of a delivery. -/
def deliveryContext (account : Option Text) (messageId : Option Text) : LogContext :=
  [("account", .text (account.getD [])), ("message_id", .text (messageId.getD []))]

/-- What is made out before a script runs: whether variables are enabled, and the identity of the
message. -/
def prepare (settings : VariablesSettings) (message : Message) (account : Option Text) :
    Except Fault (Bool × Option Text) := do
  let enabled ← settings.enabledFor account
  let messageId ← message.value? "Message-ID"
  return (enabled, messageId)

/-- Runs a script over a message. -/
def deliver (settings : VariablesSettings) (script : Script) (message : Message)
    (account : Option Text) (journal : Journal) : Except Failure Outcome × Journal :=
  match prepare settings message account with
  | .error fault => (.error (.fault fault), journal)
  | .ok (enabled, messageId) =>
    let start : State :=
      ⟨Store.empty, {}, journal.enter (deliveryContext account messageId)⟩
    let (result, state) := (runScript script ⟨message, enabled⟩).run.run start
    (result.map fun _ => state.outcome, state.journal.leave)

end Engine

end MailFilter
