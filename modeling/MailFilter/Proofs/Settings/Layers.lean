import Mathlib
import MailFilter.Proofs.Settings.Trouble

/-!
# Layers of settings

The usual settings lie below those of the file, and those of the environment above both. The layers
are put together before anything is checked, and what the environment says replaces values only: it
neither lifts a bar nor sets one up.

- `Settings.documentIn`: what the settings file holds, if there is one.
- `Settings.settle`: what becomes of a document.
- `Settings.load_eq`: settings are read by settling the document in the file.
- `Setting.override?`: what the environment says of a setting.
- `Settings.layered`: all layers together.
- `Settings.settle_eq`: the content of sections is looked at first, and the checks see all layers.
-/

namespace MailFilter

namespace Settings

variable {directory : Path} {files : FileTree} {file : Option Text} {o : Octets}
  {format : DocumentFormat}

/-! ## From the file to the settings -/

/-- The document in the settings file. Without a file nothing is given. -/
def documentIn (files : FileTree) (directory : Path) (file : Option Text)
    (format : DocumentFormat := .yaml) : Except Failure Datum := do
  if ← hasFile files directory file then readFile files (filePath directory file) format
  else return .map none []

/-- What becomes of a document: it is taken over, overridden and checked. -/
def settle (directory : Path) (e : Environment) (overridden : Bool) (document : Datum) :
    Except Failure Settings := do
  let draft ← (Draft.ofDirectory directory).take document
  let settings := (if overridden then draft.override e else draft).finish
  settings.validate
  return settings

/-- A mapping without entries leaves everything as it is. -/
theorem take_nil (d : Draft) : d.take (.map none []) = .ok d := rfl

/-- Reading settings is reading the document and settling it. -/
theorem load_eq {e : Environment} (hdirectory : e.settingsDirectory = .ok directory)
    (files : FileTree) (file : Option Text) (overridden : Bool) (format : DocumentFormat) :
    load files e file overridden format =
      documentIn files directory file format >>= settle directory e overridden := by
  unfold load documentIn
  rw [hdirectory]
  show (hasFile files directory file >>= _) = (hasFile files directory file >>= _) >>= _
  cases hasFile files directory file with
  | error cause => rfl
  | ok there =>
    cases there with
    | false =>
      show _ = settle directory e overridden (.map none [])
      unfold settle
      rw [take_nil]
      rfl
    | true => rfl

theorem reaches_of_read {p : Path} (h : files.read p = .ok o) : files.reaches p = .ok true := by
  unfold FileTree.read at h
  unfold FileTree.reaches
  cases hplace : files.place p with
  | error cause => rw [hplace] at h; cases h
  | ok place =>
    rw [hplace] at h
    dsimp only [bind, Except.bind] at h
    show Except.ok (files.at? place).isSome = _
    cases hnode : files.at? place with
    | none => rw [hnode] at h; cases h
    | some node => rfl

/-- A file that can be read is there. -/
theorem documentIn_of_read (h : files.read (filePath directory file) = .ok o) :
    documentIn files directory file format = readFile files (filePath directory file) format := by
  have hreaches := reaches_of_read h
  have hhas : hasFile files directory file = .ok true := by
    unfold hasFile
    dsimp only
    rw [hreaches]
    -- a file that is there is not missed, be it named or not
    cases file.any (!·.isEmpty) <;> rfl
  unfold documentIn
  rw [hhas]
  rfl

/-- A document is taken over section by section. -/
theorem take_ofDirectory (directory : Path) (document : Datum) :
    ((Draft.ofDirectory directory).take document).map Draft.finish =
      unlessBarred (parts.findSome? (·.contentTrouble? document.value))
        (.ok (ofDocument directory document)) := by
  have hvars : Draft.takeSection document.value "variables" VariablesSettings.initial = _ :=
    Part.vars.takeSection_eq document.value
  have hfilter : Draft.takeSection document.value "filter" FilterSettings.initial = _ :=
    Part.filter.takeSection_eq document.value
  have hlog : Draft.takeSection document.value "logging" LogSettings.initial = _ :=
    Part.log.takeSection_eq document.value
  show ((Draft.takeSection document.value "variables" VariablesSettings.initial >>= fun vars =>
    Draft.takeSection document.value "filter" FilterSettings.initial >>= fun filter =>
      Draft.takeSection document.value "logging" LogSettings.initial >>= fun log =>
        Except.ok _).map Draft.finish : Except Failure Settings) = _
  -- the sections one after another: the first trouble among them is that of the whole
  rw [hvars, hfilter, hlog, unlessBarred_bind, unlessBarred_bind, unlessBarred_bind,
    unlessBarred_unlessBarred, unlessBarred_unlessBarred, findSome?_parts, Option.or_assoc]
  cases (Part.vars.contentTrouble? document.value).or
    ((Part.filter.contentTrouble? document.value).or
      (Part.log.contentTrouble? document.value)) <;> rfl

end Settings

/-! ## What the environment says -/

namespace Settings.Part

/-- The variables that override settings of a section. -/
def overrides : Part → List Environment.Override
  | .vars => Environment.variablesOverrides
  | .filter => Environment.filterOverrides
  | .log => Environment.logOverrides

end Settings.Part

/-- What the environment says of a setting. -/
def Setting.override? (e : Environment) (st : Setting) : Option Value := do
  let p ← st.part?
  let o ← p.overrides.find? (·.setting = st.name)
  (e.valueOf? o.source).map o.read

namespace Section

theorem get?_put_eq (s : Section) (name other : Text) (v : Value) :
    (s.put name v).get? other = if name = other then some v else s.get? other := by
  unfold get? put
  rw [Assoc.get?_put]
  split <;> rfl

/-- An override of a section, if the variable has a value. -/
def overriddenBy (s : Section) (name : Text) (v : Option Value) : Section :=
  v.elim s (s.put name)

@[simp] theorem get?_overriddenBy (s : Section) (name other : Text) (v : Option Value) :
    (s.overriddenBy name v).get? other = if name = other then v.or (s.get? other) else s.get? other := by
  cases v with
  | none => simp [overriddenBy]
  | some v => simp [overriddenBy, get?_put_eq]

end Section

namespace Environment

@[simp] theorem apply_nil (e : Environment) (s : Section) : e.apply [] s = s := rfl

@[simp] theorem apply_cons (e : Environment) (o : Override) (overrides : List Override) (s : Section) :
    e.apply (o :: overrides) s =
      e.apply overrides (s.overriddenBy o.setting ((e.valueOf? o.source).map o.read)) := by
  unfold apply
  rw [List.foldl_cons]
  cases e.valueOf? o.source <;> rfl

end Environment

namespace Settings

/-- Settings with what the environment says of them. -/
def overriddenBy (e : Environment) (s : Settings) : Settings :=
  let final (st : Setting) : Value := (st.override? e).getD (st.value s)
  { s with
    vars := { s.vars with enabled := final .enabled }
    filter := { s.filter with scriptPath := final .scriptPath, defaultFolder := final .defaultFolder }
    log := { s.log with level := final .level, jsonFormat := final .jsonFormat } }

theorem value_overriddenBy (e : Environment) (s : Settings) (st : Setting) :
    st.value (s.overriddenBy e) = (st.override? e).getD (st.value s) := by
  cases st <;> rfl

/-- Of a section the overrides replace values only. -/
theorem finish_override (d : Draft) (e : Environment) :
    (d.override e).finish = d.finish.overriddenBy e := by
  have hvars : VariablesSettings.ofSection (e.apply Environment.variablesOverrides d.vars) =
      (d.finish.overriddenBy e).vars := by
    rw [Environment.variablesOverrides, Environment.apply_cons, Environment.apply_nil]
    simp +decide only [VariablesSettings.ofSection, Section.obstacle, Section.get?_overriddenBy,
      Option.getD_or, if_true, if_false]
    rfl
  have hfilter : FilterSettings.ofSection (e.apply Environment.filterOverrides d.filter) =
      (d.finish.overriddenBy e).filter := by
    rw [Environment.filterOverrides, Environment.apply_cons, Environment.apply_cons,
      Environment.apply_nil]
    simp +decide only [FilterSettings.ofSection, Section.obstacle, Section.get?_overriddenBy,
      Option.getD_or, if_true, if_false]
    rfl
  have hlog : LogSettings.ofSection (e.apply Environment.logOverrides d.log) =
      (d.finish.overriddenBy e).log := by
    rw [Environment.logOverrides, Environment.apply_cons, Environment.apply_cons,
      Environment.apply_nil]
    simp +decide only [LogSettings.ofSection, Section.obstacle, Section.get?_overriddenBy,
      Option.getD_or, if_true, if_false]
    rfl
  have hsections : (d.override e).finish =
      { d.settings with
        vars := .ofSection (e.apply Environment.variablesOverrides d.vars)
        filter := .ofSection (e.apply Environment.filterOverrides d.filter)
        log := .ofSection (e.apply Environment.logOverrides d.log) } := rfl
  rw [hsections, hvars, hfilter, hlog]
  rfl

/-- The layers of settings put together. -/
def layered (directory : Path) (e : Environment) (overridden : Bool) (document : Datum) :
    Settings :=
  if overridden then (ofDocument directory document).overriddenBy e
  else ofDocument directory document

/-- The sections are looked at as the file has them; the checks see all layers. -/
theorem settle_eq (directory : Path) (e : Environment) (overridden : Bool) (document : Datum) :
    settle directory e overridden document =
      unlessBarred (parts.findSome? (·.contentTrouble? document.value))
        ((layered directory e overridden document).validate >>= fun _ =>
          .ok (layered directory e overridden document)) := by
  have htaken := take_ofDirectory directory document
  unfold settle layered
  cases htake : (Draft.ofDirectory directory).take document with
  -- a section that is refused is the trouble of the document, and the checks are not reached
  | error cause =>
    rw [htake] at htaken
    cases htrouble : parts.findSome? (·.contentTrouble? document.value) with
    | none =>
      rw [htrouble] at htaken
      cases htaken
    | some other =>
      rw [htrouble] at htaken
      cases htaken
      rfl
  | ok draft =>
    rw [htake] at htaken
    obtain ⟨htrouble, hdraft⟩ := unlessBarred_eq_ok_iff.mp htaken.symm
    rw [htrouble, Except.ok.inj hdraft]
    cases overridden with
    | false => rfl
    | true =>
      show ((draft.override e).finish.validate >>= fun _ => .ok (draft.override e).finish) = _
      rw [finish_override]
      rfl

/-- Without the environment a mapping is refused, or the settings are what it chooses. -/
theorem settle_mapping (directory : Path) (e : Environment) (id : Option Nat)
    (entries : List (Datum × Datum)) :
    settle directory e false (.map id entries) =
      unlessBarred (trouble? directory (Datum.map id entries).value)
        (.ok (ofDocument directory (.map id entries))) := by
  have hvalid := validate_ofDocument directory id entries
  rw [settle_eq]
  show unlessBarred _ ((ofDocument directory (.map id entries)).validate >>= fun _ => _) = _
  rw [hvalid, unlessBarred_bind, unlessBarred_unlessBarred, trouble?]
  rfl

end Settings

end MailFilter
