import Mathlib
import MailFilter.Proofs.Settings.Unknown
import MailFilter.Proofs.Text.Casing

/-!
# Variables over the file over the usual settings

A setting of a section that holds one value goes with a variable, which is named after the section and
the setting. The variable is stronger than the file, and the file is stronger than the usual value.
One setting, whether the console shows the log, has a name for a variable too, but no variable of that
name is ever looked at.

- `Setting.variableName?`, `Setting.said`: the variable of a setting, and how its text is read.
- `Setting.final`: the value of a setting under all layers.
- `Settings.IsWellTyped`: documents with sections that give settings values of their kinds.
- `Settings.load_overridden`: such settings have their final values, and these alone are checked.
- `Settings.consoleOutput_not_overridden`: the variable that makes no difference.
-/

namespace MailFilter

/-! ## Variables -/

namespace Setting

/-- Whether a setting stands in a section and holds one value, and no table. -/
def isScalar (st : Setting) : Bool :=
  st.part?.isSome && st ≠ .accounts

/-- The variable that goes with a setting of a section. -/
def variableName? (st : Setting) : Option Text :=
  if st.isScalar then
    st.part?.map fun p => "SIEVE_VARS_" ++ p.name.upper ++ "_" ++ st.name.upper
  else none

/-- What switches a setting on, in letters of any case. Everything else switches it off. -/
def isOn (t : Text) : Bool :=
  [("true" : Text), "1", "yes", "on"].contains t.asciiFold

/-- What the text of a variable says of a setting. -/
def said (t : Text) : Setting → Value
  | .enabled | .jsonFormat | .consoleOutput => .bool (isOn t)
  | _ => .text t

/-- What the variable of a setting says, if it is set and ever looked at. -/
def fromVariable? (e : Environment) (st : Setting) : Option Value :=
  if st = .consoleOutput then none
  else st.variableName?.bind fun name => (e.valueOf? name).map (st.said ·)

/-- The value of a setting: that of its variable, or else the one that the file gives, or else the
usual one. -/
def final (e : Environment) (directory : Path) (document : Value) (st : Setting) : Value :=
  ((st.fromVariable? e).or (st.given? document)).getD (st.usual directory)

/-- Letters that only the large case tables know switch nothing on. -/
theorem truth_eq_isOn (t : Text) : Environment.truth t = isOn t := by
  have hword : ∀ word ∈ [("true" : Text), "1", "yes", "on"], ∀ d ∈ word,
      d.isAscii = true ∧ d ≠ .char 'k' := by decide
  -- none of the words holds the letter that the Kelvin sign becomes
  simp only [List.forall_mem_cons] at hword
  obtain ⟨htrue, hone, hyes, hon, -⟩ := hword
  unfold Environment.truth isOn
  rw [Bool.eq_iff_iff, List.contains_iff_mem, List.contains_iff_mem]
  simp only [List.mem_cons, List.not_mem_nil, or_false]
  rw [Text.lower_eq_iff htrue, Text.lower_eq_iff hone, Text.lower_eq_iff hyes, Text.lower_eq_iff hon]

/-- The overrides are looked up under the names of the variables. -/
theorem override?_eq (e : Environment) (st : Setting) : st.override? e = st.fromVariable? e := by
  have hswitch : Environment.switch = fun t => Value.bool (isOn t) :=
    funext fun t => congrArg Value.bool (truth_eq_isOn t)
  -- The names of the variables are computed from those of the settings and compared with the table.
  cases st with
  | appName | version | debug | logDirectory | accounts | consoleOutput => rfl
  | enabled =>
    have hname : variableName? .enabled = some "SIEVE_VARS_VARIABLES_ENABLED" := by decide +kernel
    show (e.valueOf? "SIEVE_VARS_VARIABLES_ENABLED").map Environment.switch = _
    rw [fromVariable?, hname, hswitch]
    rfl
  | scriptPath =>
    have hname : variableName? .scriptPath = some "SIEVE_VARS_FILTER_SCRIPT_PATH" := by decide +kernel
    rw [fromVariable?, hname]
    rfl
  | defaultFolder =>
    have hname : variableName? .defaultFolder = some "SIEVE_VARS_FILTER_DEFAULT_FOLDER" := by
      decide +kernel
    rw [fromVariable?, hname]
    rfl
  | level =>
    have hname : variableName? .level = some "SIEVE_VARS_LOGGING_LEVEL" := by decide +kernel
    rw [fromVariable?, hname]
    rfl
  | jsonFormat =>
    have hname : variableName? .jsonFormat = some "SIEVE_VARS_LOGGING_JSON_FORMAT" := by decide +kernel
    show (e.valueOf? "SIEVE_VARS_LOGGING_JSON_FORMAT").map Environment.switch = _
    rw [fromVariable?, hname, hswitch]
    rfl

theorem admits_said {st : Setting} (h : st.isScalar = true) (t : Text) :
    st.admits (st.said t) = true := by
  cases st with
  | appName | version | debug | logDirectory | accounts => cases h
  | _ => rfl

/-- What a variable says is of the kind of its setting. -/
theorem admits_fromVariable? {e : Environment} {st : Setting} {v : Value}
    (h : st.fromVariable? e = some v) : st.admits v = true := by
  unfold fromVariable? variableName? at h
  split at h
  · cases h
  · split at h
    · next hscalar =>
      obtain ⟨name, -, hvalue⟩ := Option.bind_eq_some_iff.mp h
      obtain ⟨t, -, rfl⟩ := Option.map_eq_some_iff.mp hvalue
      exact admits_said hscalar t
    · cases h

end Setting

/-! ## Sections of the declared kinds -/

namespace Settings

variable {document : Value}

namespace Part

variable {p : Part} {entry : Value × Value}

/-- Whether an entry gives a setting of the section a value of its kind, or is passed over. -/
def accepts (p : Part) (entry : Value × Value) : Bool :=
  (Setting.all.any fun st =>
    st.part? = some p && entry.1.isText st.name && st.admits entry.2) || p.passesOver entry.1

theorem accepts_eq_true_iff :
    p.accepts entry = true ↔
      (∃ st : Setting, st.part? = some p ∧ entry.1 = .text st.name ∧ st.admits entry.2 = true) ∨
        p.passesOver entry.1 = true := by
  simp only [accepts, Bool.or_eq_true, List.any_eq_true, Bool.and_eq_true, decide_eq_true_eq,
    Value.isText_eq_true_iff]
  constructor
  · rintro (⟨st, -, ⟨hpart, hname⟩, hadmits⟩ | hover)
    · exact .inl ⟨st, hpart, hname, hadmits⟩
    · exact .inr hover
  · rintro (⟨st, hpart, hname, hadmits⟩ | hover)
    · exact .inl ⟨st, st.mem_all, ⟨hpart, hname⟩, hadmits⟩
    · exact .inr hover

/-- An acceptable entry stands under a text that names nothing but a setting, if it names anything. -/
theorem exists_name_of_accepts (h : p.accepts entry = true) :
    ∃ name, entry.1 = .text name ∧ name ∉ Section.ownNames ∧ name ∉ p.initial.operations := by
  rcases accepts_eq_true_iff.mp h with ⟨st, hpart, hname, -⟩ | hover
  · refine ⟨st.name, hname, ?_, ?_⟩
    · cases st <;> decide
    · cases st <;> first | cases hpart; decide | cases hpart
  · -- what is passed over is unknown to the section, and operations are known
    obtain ⟨name, hname, hunknown, hown⟩ := passesOver_eq_true_iff.mp hover
    refine ⟨name, hname, hown, fun hoperation => ?_⟩
    rw [Section.knows, List.contains_iff_mem.mpr hoperation, Bool.or_true] at hunknown
    cases hunknown

/-- An entry under the name of a setting gives it a value of its kind. -/
theorem admits_of_accepts {st : Setting} (hpart : st.part? = some p) {v : Value}
    (h : p.accepts (.text st.name, v) = true) : st.admits v = true := by
  rcases accepts_eq_true_iff.mp h with ⟨other, -, hname, hadmits⟩ | hover
  · have hname : st.name = other.name := Value.text.inj hname
    obtain rfl : st = other := by
      revert hname
      cases st <;> cases other <;> decide
    exact hadmits
  · obtain ⟨name, hname, hunknown, -⟩ := passesOver_eq_true_iff.mp hover
    obtain rfl : st.name = name := Value.text.inj hname
    -- the section knows its settings, so an entry of such a name is not passed over
    cases st <;> cases hpart <;> cases hunknown

/-- Whether a section is absent, without content, or a mapping of acceptable entries. -/
def isWellTyped (p : Part) (document : Value) : Bool :=
  match document.field? p.name with
  | none => true
  | some content =>
    !content.isTruthy ||
      match content with
      | .map entries => entries.all p.accepts
      | _ => false

end Part

/-- Every section is absent, without content, or a mapping of acceptable entries. -/
def IsWellTyped (document : Value) : Prop :=
  ∀ p : Part, p.isWellTyped document = true

instance : DecidablePred IsWellTyped := fun document =>
  decidable_of_iff (parts.all (·.isWellTyped document) = true) <| by
    rw [List.all_eq_true]
    exact ⟨fun h p => h p p.mem_parts, fun h p _ => h p⟩

namespace IsWellTyped

variable (h : IsWellTyped document)
include h

theorem accepts (p : Part) : ∀ entry ∈ p.entries document, p.accepts entry = true := by
  have hpart := h p
  intro entry hentry
  unfold Part.entries at hentry
  split at hentry
  · next entries hcontent =>
    have htruthy : (Value.map entries).isTruthy = true := by
      cases entries with
      | nil => cases hentry
      | cons => rfl
    rw [Part.isWellTyped, hcontent] at hpart
    dsimp only at hpart
    rw [htruthy, Bool.not_true, Bool.false_or] at hpart
    exact List.all_eq_true.mp hpart entry hentry
  · cases hentry

theorem contentTrouble? (p : Part) : p.contentTrouble? document = none := by
  have haccepts := h.accepts p
  have hpart := h p
  unfold Part.isWellTyped at hpart
  unfold Part.entries at haccepts
  unfold Part.contentTrouble?
  cases hcontent : document.field? p.name with
  | none => rfl
  | some content =>
    rw [hcontent] at hpart haccepts
    dsimp only at hpart ⊢
    cases htruthy : content.isTruthy with
    | false => rfl
    | true =>
      rw [htruthy, Bool.not_true, Bool.false_or] at hpart
      cases content with
      | map entries =>
        have hnone : entries.findSome? Section.entryFault? = none := by
          refine List.findSome?_eq_none_iff.mpr fun entry hentry => ?_
          obtain ⟨key, v⟩ := entry
          obtain ⟨name, rfl, hown, -⟩ := Part.exists_name_of_accepts (haccepts _ hentry)
          exact Section.entryFault?_of_not_mem hown v
        show (entries.findSome? Section.entryFault?).map Failure.fault = none
        rw [hnone]
        rfl
      | _ => cases hpart

theorem not_table (p : Part) :
    ∀ entry ∈ p.entries document, entry.1.isText Section.tableName = false := by
  intro entry hentry
  obtain ⟨name, hname, hown, -⟩ := Part.exists_name_of_accepts (h.accepts p entry hentry)
  rw [hname]
  refine decide_eq_false ?_
  rintro rfl
  exact hown (by decide)

/-- What a file gives is of the kind of its setting. -/
theorem admits_given? {st : Setting} {p : Part} (hpart : st.part? = some p) {v : Value}
    (hgiven : st.given? document = some v) : st.admits v = true := by
  rw [Setting.given?, hpart] at hgiven
  have hmem := Section.mem_of_given? (h.not_table p) hgiven
  exact Part.admits_of_accepts hpart (h.accepts p _ hmem)

/-- Final values are of the kinds of their settings. -/
theorem admits_final (st : Setting) {p : Part} (hpart : st.part? = some p) (e : Environment)
    (directory : Path) : st.admits (st.final e directory document) = true := by
  unfold Setting.final
  cases hsaid : st.fromVariable? e with
  | some v => exact Setting.admits_fromVariable? hsaid
  | none =>
    cases hgiven : st.given? document with
    | some v => exact h.admits_given? hpart hgiven
    | none => exact st.admits_usual directory

/-- Nothing bars the check of a section. -/
theorem bar_or_loss (p : Part) : (p.bar? document).or (p.loss? document) = none := by
  have hgiven : Section.given? Section.checkName (p.entries document) = none := by
    refine Option.eq_none_iff_forall_ne_some.mpr fun v hgiven => ?_
    have hmem := Section.mem_of_given? (h.not_table p) hgiven
    obtain ⟨name, hname, -, hoperation⟩ := Part.exists_name_of_accepts (h.accepts p _ hmem)
    -- the check is an operation of the section, and no acceptable entry stands under the name of
    -- one
    obtain rfl : Section.checkName = name := Value.text.inj hname
    exact hoperation (by cases p <;> decide)
  rw [Part.bar?, hgiven, Part.loss?, Section.loses_eq_false (h.not_table p), Bool.and_false]
  rfl

end IsWellTyped

/-! ## Final values -/

variable {directory : Path} {id : Option Nat} {entries : List (Datum × Datum)}

theorem value_layered (h : IsWellTyped (Datum.map id entries).value) (e : Environment)
    (st : Setting) :
    st.value (layered directory e true (.map id entries)) =
      st.final e directory (Datum.map id entries).value := by
  have hkept : Section.loses "accounts" (Part.vars.entries (Datum.map id entries).value) = false :=
    Section.loses_eq_false (h.not_table .vars)
  show st.value ((ofDocument directory (.map id entries)).overriddenBy e) = _
  rw [value_overriddenBy, value_ofDocument directory id entries st fun _ => hkept,
    Setting.override?_eq, Setting.chosen, Setting.final, Option.getD_or]

/-- The check of well-typed settings looks at the final default folder and the final level. -/
theorem validate_layered (h : IsWellTyped (Datum.map id entries).value) (e : Environment)
    {folder level : Text}
    (hfolder : Setting.defaultFolder.final e directory (Datum.map id entries).value = .text folder)
    (hlevel : Setting.level.final e directory (Datum.map id entries).value = .text level) :
    (layered directory e true (.map id entries)).validate =
      if folder = [] then .error (.settings .emptyFolder)
      else if level.upper ∈ LogSettings.levels then .ok ()
      else .error (.settings (.unknownLevel (.text level))) := by
  have hbar : ∀ p : Part, (p.checkBar (layered directory e true (.map id entries))).map .fault =
      (none : Option Failure) := by
    intro p
    have hdocument := Part.checkBar_ofDocument directory (.map id entries) p
    rw [h.bar_or_loss p] at hdocument
    cases p <;> exact hdocument
  have haccounts := accountsTrouble?_eq_none_iff.mpr (h.admits_final .accounts rfl e directory)
  rw [validate_eq, findSome?_parts, hbar, hbar, hbar, value_layered h, value_layered h,
    value_layered h]
  show unlessBarred ((accountsTrouble? (Setting.accounts.final e directory _)).or
    ((folderTrouble? (Setting.defaultFolder.final e directory _)).or
      (levelTrouble? (Setting.level.final e directory _)))) _ = _
  -- the folder is looked at before the level
  rw [haccounts, hfolder, hlevel]
  unfold folderTrouble? levelTrouble?
  dsimp only
  cases folder with
  | nil => rfl
  | cons c folder =>
    rw [if_neg (List.cons_ne_nil c folder)]
    by_cases hknown : level.upper ∈ LogSettings.levels
    · rw [if_pos hknown, if_pos (List.contains_iff_mem.mpr hknown)]
      rfl
    · rw [if_neg hknown, if_neg (mt List.contains_iff_mem.mp hknown)]
      rfl

/-- Settings from a file with well-typed sections, in any format, and from the environment have their
final values. They are refused exactly if the final default folder is empty or the final level is
unknown, and for this cause. -/
theorem load_overridden {format : DocumentFormat} {files : FileTree} {e : Environment}
    {file : Option Text} {document : Datum} (hdirectory : e.settingsDirectory = .ok directory)
    (hdocument : documentIn files directory file format = .ok document)
    (htyped : IsWellTyped document.value) :
    ∃ (folder level : Text) (s : Settings),
      Setting.defaultFolder.final e directory document.value = .text folder ∧
      Setting.level.final e directory document.value = .text level ∧
      (∀ st : Setting, st.value s = st.final e directory document.value) ∧
      load files e file true format =
        if folder = [] then .error (.settings .emptyFolder)
        else if level.upper ∈ LogSettings.levels then .ok s
        else .error (.settings (.unknownLevel (.text level))) := by
  obtain ⟨id, entries, rfl⟩ := exists_map_of_documentIn hdocument
  obtain ⟨folder, hfolder⟩ := Setting.exists_text (htyped.admits_final .defaultFolder rfl e directory)
  obtain ⟨level, hlevel⟩ := Setting.exists_text (htyped.admits_final .level rfl e directory)
  have hcontent : parts.findSome? (·.contentTrouble? (Datum.map id entries).value) = none :=
    List.findSome?_eq_none_iff.mpr fun p _ => htyped.contentTrouble? p
  refine ⟨folder, level, layered directory e true (.map id entries), hfolder, hlevel,
    value_layered htyped e, ?_⟩
  rw [load_eq hdirectory, hdocument]
  show settle directory e true (.map id entries) = _
  rw [settle_eq, hcontent, validate_layered htyped e hfolder hlevel]
  split
  · rfl
  · split <;> rfl

/-- The file has a folder and a level, and a variable another level in small letters. -/
theorem load_overridden_level :
    let e : Environment := ("SIEVE_VARS_LOGGING_LEVEL", "debug") :: directoryVariable
    let files := filesWith "filter:\n  default_folder: Mine\nlogging:\n  level: ERROR\n"
    e.settingsDirectory = .ok (Path.ofText "cfg") ∧
      ∃ document, documentIn files (Path.ofText "cfg") none = .ok document ∧
        IsWellTyped document.value ∧
        ∃ s, load files e none true = .ok s ∧ s.filter.defaultFolder = .text "Mine" ∧
          s.log.level = .text "debug" := by
  intro e files
  have hdirectory : e.settingsDirectory = .ok (Path.ofText "cfg") := rfl
  have hread : (documentIn files (Path.ofText "cfg") none).toOption.map (fun document =>
      let final := Setting.final e (Path.ofText "cfg") document.value
      (IsWellTyped document.value ∧ (final .defaultFolder).isText "Mine" ∧
        (final .level).isText "debug" : Bool)) = some true := by decide +kernel
  obtain ⟨document, hdocument, hfound⟩ := exists_of_map_toOption hread
  obtain ⟨htyped, hmine, hdebug⟩ := of_decide_eq_true hfound
  obtain ⟨folder, level, s, hfolder, hlevel, hvalues, hload⟩ :=
    load_overridden hdirectory hdocument htyped
  rw [Value.isText_eq_true_iff] at hmine hdebug
  obtain rfl : folder = "Mine" := Value.text.inj (hfolder.symm.trans hmine)
  obtain rfl : level = "debug" := Value.text.inj (hlevel.symm.trans hdebug)
  have hknown : ("debug" : Text).upper ∈ LogSettings.levels := by decide +kernel
  rw [if_neg (by decide), if_pos hknown] at hload
  exact ⟨hdirectory, document, hdocument, htyped, s, hload, (hvalues .defaultFolder).trans hfolder,
    (hvalues .level).trans hlevel⟩

/-- A variable of the name that goes with the setting for the console says that it is off, and the
setting is on. -/
theorem consoleOutput_not_overridden :
    let e : Environment := ("SIEVE_VARS_LOGGING_CONSOLE_OUTPUT", "false") :: directoryVariable
    Setting.consoleOutput.variableName? = some "SIEVE_VARS_LOGGING_CONSOLE_OUTPUT" ∧
      e.valueOf? "SIEVE_VARS_LOGGING_CONSOLE_OUTPUT" = some "false" ∧
      Setting.consoleOutput.said "false" = .bool false ∧
      ∃ s, load (filesWith "logging:\n  level: INFO\n") e none true = .ok s ∧
        s.log.consoleOutput = .bool true := by
  intro e
  have hload : (load (filesWith "logging:\n  level: INFO\n") e none true).toOption.map (fun s =>
      Setting.isSwitch s.log.consoleOutput && s.log.consoleOutput.isTruthy) = some true := by
    decide +kernel
  obtain ⟨s, hs, hon⟩ := exists_of_map_toOption hload
  obtain ⟨hswitch, htruthy⟩ := Bool.and_eq_true_iff.mp hon
  refine ⟨by decide +kernel, rfl, rfl, s, hs, ?_⟩
  cases hvalue : s.log.consoleOutput with
  | bool on =>
    rw [hvalue] at htruthy
    exact congrArg Value.bool htruthy
  | _ =>
    rw [hvalue] at hswitch
    cases hswitch

end Settings

end MailFilter
