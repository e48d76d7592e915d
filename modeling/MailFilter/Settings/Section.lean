import MailFilter.Assoc
import MailFilter.Settings.Basic

/-!
# Sections of a settings file

A section starts with the usual settings. Its entries in a file replace settings, and an entry of an
unknown name is passed over. The operations of a section and the list of its settings have names as
well: an entry of such a name takes the place of the operation, which cannot be performed from then
on, or of the list. Some names stand for the section itself.

- `Section`: a section while its entries are read.
- `Section.enter`: an entry of the file.
- `VariablesSettings.ofSection`, `FilterSettings.ofSection`, `LogSettings.ofSection`: the settings.
-/

namespace MailFilter

/-- A section while its entries are read. -/
structure Section where
  /-- The settings and operations with values. -/
  own : Assoc Text Value
  /-- What holds where the section has no value of its own. -/
  common : Assoc Text Value
  /-- The names of operations, and of the list of the settings. -/
  operations : List Text
  deriving Inhabited

namespace Section

/-- The name of the check of a section. -/
def checkName : Text := "validate"

/-- The name of the question whether variables are enabled. -/
def switchName : Text := "enabled_for"

/-- The name of the list of the settings of a section. -/
def listName : Text := "__dataclass_fields__"

/-- The name of the kind of a section, which cannot be changed to a value. -/
def kindName : Text := "__class__"

/-- The name of the table of a section. -/
def tableName : Text := "__dict__"

/-- The name of the list of those who watch a section, which cannot be replaced. -/
def watchersName : Text := "__weakref__"

/-- The value under a name. -/
def get? (s : Section) (name : Text) : Option Value :=
  (s.own.get? name).orElse fun _ => s.common.get? name

/-- Whether a section has something under a name. -/
def knows (s : Section) (name : Text) : Bool :=
  (s.get? name).isSome || s.operations.contains name

/-- Gives a setting a value. -/
def put (s : Section) (name : Text) (v : Value) : Section :=
  { s with own := s.own.put name v }

/-- The entries of a mapping under texts. -/
def textEntries (entries : List (Value × Value)) : Assoc Text Value :=
  entries.filterMap fun (k, v) =>
    match k with
    | .text name => some (name, v)
    | _ => none

/-- An entry of the file. A mapping under the name of the table is copied: where the file mentions it
in another place too, what is entered later is not seen there. -/
def enter (s : Section) (key v : Value) : Except Fault Section :=
  match key with
  | .text name =>
    if name = kindName then .error .wrongKind
    else if name = watchersName then .error .noOperation
    else if name = tableName then
      match v with
      | .map entries => .ok { s with own := textEntries entries }
      | _ => .error .wrongKind
    else .ok (if s.knows name then s.put name v else s)
  | _ => .error .wrongKind

/-- The entries of the file. -/
def enterAll (s : Section) (entries : List (Value × Value)) : Except Fault Section :=
  entries.foldlM (fun s (k, v) => s.enter k v) s

/-- Why an operation cannot be performed: its place has been taken, or a setting that it needs is
not there. -/
def obstacle (s : Section) (operation : Text) (needed : List Text) : Option Fault :=
  if (s.get? operation).isSome then some .wrongKind
  else if needed.all fun name => (s.get? name).isSome then none
  else some .noOperation

/-- An entry of an unknown name is passed over. -/
theorem enter_of_unknown (s : Section) (name : Text) (v : Value) (h : s.knows name = false)
    (hk : name ≠ kindName) (hw : name ≠ watchersName) (ht : name ≠ tableName) :
    s.enter (.text name) v = .ok s := by
  simp [enter, h, hk, hw, ht]

/-- What was put is there. -/
theorem get?_put (s : Section) (name : Text) (v : Value) : (s.put name v).get? name = some v := by
  simp [get?, put, Assoc.get?_put]

end Section

namespace VariablesSettings

/-- The section of the usual settings. -/
def initial : Section :=
  let enabled : Text × Value := ("enabled", .bool true)
  ⟨[enabled, ("accounts", .map [])], [enabled],
    [Section.checkName, Section.switchName, Section.listName]⟩

/-- The settings of a section. -/
def ofSection (s : Section) : VariablesSettings :=
  ⟨(s.get? "enabled").getD .null, (s.get? "accounts").getD .null,
    s.obstacle Section.checkName ["accounts"], s.obstacle Section.switchName [],
    s.get? Section.listName⟩

end VariablesSettings

namespace FilterSettings

/-- The section of the usual settings. -/
def initial : Section :=
  let usual : Assoc Text Value := [("script_path", .text []), ("default_folder", .text "INBOX")]
  ⟨usual, usual, [Section.checkName, Section.listName]⟩

/-- The settings of a section. -/
def ofSection (s : Section) : FilterSettings :=
  ⟨(s.get? "script_path").getD .null, (s.get? "default_folder").getD .null,
    s.obstacle Section.checkName [], s.get? Section.listName⟩

end FilterSettings

namespace LogSettings

/-- The section of the usual settings. -/
def initial : Section :=
  let usual : Assoc Text Value :=
    [("level", .text "INFO"), ("json_format", .bool false), ("console_output", .bool true)]
  ⟨usual, usual, [Section.checkName, Section.listName]⟩

/-- The settings of a section. -/
def ofSection (s : Section) : LogSettings :=
  ⟨(s.get? "level").getD .null, (s.get? "json_format").getD .null,
    (s.get? "console_output").getD .null, s.obstacle Section.checkName [],
    s.get? Section.listName⟩

end LogSettings

end MailFilter
