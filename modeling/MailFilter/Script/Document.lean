import MailFilter.Script.Reading
import MailFilter.Yaml.Format

/-!
# Scripts in documents

- `Script.valueOfText`: the value of the document that holds a script.
-/

namespace MailFilter

namespace Script

/-- The value of the document that holds a script. One that holds nothing is a script without
commands. -/
def valueOfText (t : Text) (format : DocumentFormat := .yaml) : Except Failure Value :=
  match format.read t with
  | .ok d => .ok (if d.value.isTruthy then d.value else .map [])
  | .error .malformed => .error (.script .unparsable)
  | .error (.fault f) => .error (.fault f)

end Script

end MailFilter
