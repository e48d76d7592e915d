import MailFilter.Delivery.Engine
import MailFilter.Message.Reading

/-!
# Messages that arrive

Messages reach the engine as texts, as octets, or read already. One engine goes through any number of
them, whatever comes of each, and the log goes on from one to the next.

- `Mail`, `Arrival`: a message as it is given, and where it is to go.
- `Engine.receive`: reads a message and runs a script over it.
- `Engine.receiveAll`: messages one after another.
-/

namespace MailFilter

/-- A message as it is given to the engine. -/
inductive Mail where
  | text (t : Text)
  | octets (o : Octets)
  | message (m : Message)

namespace Mail

/-- The message, read if it is not so already. -/
def read : Mail → Except Fault Message
  | .text t => Message.ofText t
  | .octets o => Message.ofOctets o
  | .message m => .ok m

end Mail

/-- A message, the account that it is delivered to, and the script that it goes through. -/
structure Arrival where
  script : Script
  mail : Mail
  account : Option Text

namespace Engine

/-- Reads a message and runs a script over it. -/
def receive (settings : VariablesSettings) (a : Arrival) (journal : Journal) :
    Except Failure Outcome × Journal :=
  match a.mail.read with
  | .error fault => (.error (.fault fault), journal)
  | .ok message => deliver settings a.script message a.account journal

/-- Receives messages one after another. -/
def receiveAll (settings : VariablesSettings) :
    List Arrival → Journal → List (Except Failure Outcome) × Journal
  | [], journal => ([], journal)
  | a :: rest, journal =>
    let (result, journal) := receive settings a journal
    let (results, journal) := receiveAll settings rest journal
    (result :: results, journal)

end Engine

end MailFilter
