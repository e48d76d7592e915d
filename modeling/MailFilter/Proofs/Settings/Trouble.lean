import Mathlib
import MailFilter.Proofs.Answer
import MailFilter.Proofs.Settings.Entries

/-!
# What documents are refused for

A document has six chances to be refused, three for the content of its sections and three for the
values of settings; the first refusal counts. A document that is not refused chooses the settings.

- `Setting.given?`, `Setting.chosen`: what a document gives a setting, and what the setting then is.
- `Settings.Part.contentTrouble?`, `Settings.Part.valueTrouble?`, `Settings.trouble?`: the refusals.
- `Settings.ofDocument`: the settings that a document chooses.
- `Settings.validate_eq`: a check looks at one setting of each section.
- `Settings.validate_ofDocument`: the checks find the troubles with the values of a document.
-/

namespace MailFilter

/-! ## Bars -/

section Bars

variable {ε ε' α β : Type}

/-- A bar ends what would follow. -/
theorem unlessBarred_bind (bar : Option ε) (a : α) (f : α → Except ε β) :
    (unlessBarred bar (.ok a) >>= f) = unlessBarred bar (f a) := by
  cases bar <;> rfl

/-- Of two bars the first one counts. -/
theorem unlessBarred_unlessBarred (first second : Option ε) (r : Except ε α) :
    unlessBarred first (unlessBarred second r) = unlessBarred (first.or second) r := by
  cases first <;> rfl

/-- There is an answer only where nothing bars it. -/
theorem unlessBarred_eq_ok_iff {bar : Option ε} {r : Except ε α} {a : α} :
    unlessBarred bar r = .ok a ↔ bar = none ∧ r = .ok a := by
  cases bar with
  | none => exact ⟨fun h => ⟨rfl, h⟩, fun h => h.2⟩
  | some e => exact ⟨nofun, fun h => nomatch h.1⟩

theorem mapError_unlessBarred (f : ε → ε') (bar : Option ε) (a : α) :
    (unlessBarred bar (.ok a)).mapError f = unlessBarred (bar.map f) (.ok a) := by
  cases bar <;> rfl

/-- The first bar ends a run of operations. -/
theorem mapM_unlessBarred (bar : α → Option ε) (f : α → β) (as : List α) :
    as.mapM (fun a => unlessBarred (bar a) (.ok (f a))) =
      unlessBarred (as.findSome? bar) (.ok (as.map f)) := by
  induction as with
  | nil => rfl
  | cons a rest ih =>
    rw [List.mapM_cons, unlessBarred_bind, ih, unlessBarred_bind, unlessBarred_unlessBarred,
      List.findSome?_cons]
    cases bar a <;> rfl

end Bars

/-! ## What a document gives -/

namespace Datum

/-- What a mapping has under a name has the value that its value has there. -/
theorem value_field? (id : Option Nat) (entries : List (Datum × Datum)) (name : Text) :
    ((Datum.map id entries).field? name).map value = (Datum.map id entries).value.field? name := by
  show ((entries.find? fun entry => entry.1.value.isText name).map Prod.snd).map value =
    Value.lookupText? name (valuesOfEntries entries)
  induction entries with
  | nil => rfl
  | cons entry rest ih =>
    obtain ⟨key, v⟩ := entry
    rw [List.find?_cons, valuesOfEntries, Value.lookupText?, ← ih]
    dsimp only
    cases key.value.isText name <;> rfl

/-- What stands under a name, or else a usual value. -/
theorem value_getD_field? (id : Option Nat) (entries : List (Datum × Datum)) (name : Text)
    (usual : Value) :
    (((Datum.map id entries).field? name).getD (.plain usual)).value =
      ((Datum.map id entries).value.field? name).getD usual := by
  rw [← value_field?]
  cases (Datum.map id entries).field? name <;> rfl

end Datum

namespace Setting

/-- The value that a document gives a setting. -/
def given? (document : Value) (st : Setting) : Option Value :=
  match st.part? with
  | none => document.field? st.name
  | some p => Section.given? st.name (p.entries document)

/-- The value of a setting once a document has been read. -/
def chosen (directory : Path) (document : Value) (st : Setting) : Value :=
  (st.given? document).getD (st.usual directory)

end Setting

namespace Settings

variable {directory : Path} {document : Value}

namespace Part

/-- What the content of a section is refused for: it is no mapping, or one of its entries cannot be
made. A section without content is passed over. -/
def contentTrouble? (document : Value) (p : Part) : Option Failure :=
  match document.field? p.name with
  | none => none
  | some content =>
    if !content.isTruthy then none
    else
      match content with
      | .map entries => (entries.findSome? Section.entryFault?).map .fault
      | _ => some (.settings (.sectionNotMapping p.name))

/-- A section of a document is refused, or its entries are read. -/
theorem takeSection_eq (document : Value) (p : Part) :
    Draft.takeSection document p.name p.initial =
      unlessBarred (p.contentTrouble? document) (.ok (p.read document)) := by
  unfold Draft.takeSection contentTrouble? read entries
  cases document.field? p.name with
  | none => rfl
  | some content =>
    dsimp only
    cases htruthy : content.isTruthy with
    | false =>
      cases content with
      | map entries =>
        -- A mapping without content has no entries.
        have hempty : entries = [] := by simpa [Value.isTruthy] using htruthy
        subst hempty
        rfl
      | _ => rfl
    | true =>
      cases content with
      | map entries =>
        show (p.initial.enterAll entries).mapError _ = _
        rw [Section.enterAll_eq, mapError_unlessBarred]
        rfl
      | _ => rfl

end Part

/-! ## What settings are refused for -/

/-- The failure of a cause: a cause that quotes what cannot be shown is a fault itself. -/
def failureOf (cause : SettingsError) : Failure :=
  if cause.isShowable then .settings cause else .fault .badValue

/-- The first account whose switch is neither true nor false. -/
def accountsTrouble? : Value → Option Failure
  | .map entries =>
    (entries.find? fun (_, switch) => !Setting.isSwitch switch).map fun (name, switch) =>
      failureOf (.accountNotSwitch name switch)
  | v => some (.settings (.accountsNotMapping v))

/-- Accounts are in order if all of them have switches. -/
theorem accountsTrouble?_eq_none_iff {v : Value} :
    accountsTrouble? v = none ↔ Setting.areSwitches v = true := by
  cases v with
  | map entries =>
    unfold accountsTrouble? Setting.areSwitches
    rw [Option.map_eq_none_iff, List.find?_eq_none, List.all_eq_true]
    exact forall₂_congr fun entry _ => by simp
  | _ => exact iff_of_false nofun nofun

/-- An empty default folder. -/
def folderTrouble? (v : Value) : Option Failure :=
  if v.isTruthy then none else some (.settings .emptyFolder)

/-- A level that is unknown. What is neither a text nor octets has no letters to compare. -/
def levelTrouble? : Value → Option Failure
  | .text t =>
    if LogSettings.levels.contains t.upper then none
    else some (.settings (.unknownLevel (.text t)))
  | .octets o => some (.settings (.unknownLevel (.octets o)))
  | _ => some (.fault .noOperation)

namespace Part

/-- The setting that the check of a section looks at. -/
def checked : Part → Setting
  | .vars => .accounts
  | .filter => .defaultFolder
  | .log => .level

/-- What the check of a section refuses a value for. -/
def refusal? : Part → Value → Option Failure
  | .vars => accountsTrouble?
  | .filter => folderTrouble?
  | .log => levelTrouble?

/-- An entry in the place of the check of a section bars the check. -/
def bar? (document : Value) (p : Part) : Option Failure :=
  if (Section.given? Section.checkName (p.entries document)).isSome then some (.fault .wrongKind)
  else none

/-- A check finds nothing to look at if its setting is not always known and is lost. -/
def loss? (document : Value) (p : Part) : Option Failure :=
  if !p.initial.alwaysKnows p.checked.name && Section.loses p.checked.name (p.entries document) then
    some (.fault .noOperation)
  else none

/-- What the values of a section are refused for. -/
def valueTrouble? (directory : Path) (document : Value) (p : Part) : Option Failure :=
  (p.bar? document).or
    ((p.loss? document).or (p.refusal? (p.checked.chosen directory document)))

/-- No usual value is refused. -/
theorem refusal?_usual (directory : Path) (p : Part) :
    p.refusal? (p.checked.usual directory) = none := by
  cases p with
  | vars => rfl
  | filter => rfl
  | log =>
    have hlevel : LogSettings.levels.contains (("INFO" : Text).upper) = true := by decide +kernel
    show levelTrouble? (.text "INFO") = none
    unfold levelTrouble?
    dsimp only
    rw [if_pos hlevel]

/-- Only the switches of accounts can be lost. -/
theorem loss?_eq_none_iff (document : Value) (p : Part) :
    p.loss? document = none ↔
      (p = .vars → Section.loses "accounts" (vars.entries document) = false) := by
  cases p with
  | vars =>
    have hknown : vars.initial.alwaysKnows vars.checked.name = false := rfl
    rw [loss?, hknown]
    show (if Section.loses "accounts" (vars.entries document) = true then _ else _) = none ↔ _
    cases Section.loses "accounts" (vars.entries document) with
    | true => exact ⟨nofun, fun h => absurd (h rfl) (Bool.false_ne_true ∘ Eq.symm)⟩
    | false => exact ⟨fun _ _ => rfl, fun _ => rfl⟩
  | filter =>
    have hknown : filter.initial.alwaysKnows filter.checked.name = true := rfl
    rw [loss?, hknown]
    exact ⟨fun _ => nofun, fun _ => rfl⟩
  | log =>
    have hknown : log.initial.alwaysKnows log.checked.name = true := rfl
    rw [loss?, hknown]
    exact ⟨fun _ => nofun, fun _ => rfl⟩

end Part

/-- The sections in the order in which they are read and checked. -/
def parts : List Part := [.vars, .filter, .log]

theorem Part.mem_parts (p : Part) : p ∈ parts := by
  cases p <;> decide

/-- What a document is refused for first. All sections are read before the first one is checked. -/
def trouble? (directory : Path) (document : Value) : Option Failure :=
  (parts.findSome? (·.contentTrouble? document)).or
    (parts.findSome? (·.valueTrouble? directory document))

/-- A document is not refused if no section is, for its content or for its values. -/
theorem trouble?_eq_none_iff {directory : Path} {document : Value} :
    trouble? directory document = none ↔
      ∀ p : Part, p.contentTrouble? document = none ∧ p.valueTrouble? directory document = none := by
  rw [trouble?, Option.or_eq_none_iff, List.findSome?_eq_none_iff, List.findSome?_eq_none_iff]
  constructor
  · intro ⟨hcontent, hvalue⟩ p
    exact ⟨hcontent p p.mem_parts, hvalue p p.mem_parts⟩
  · intro h
    exact ⟨fun p _ => (h p).1, fun p _ => (h p).2⟩

/-- An empty document is refused for nothing. -/
theorem trouble?_nil (directory : Path) : trouble? directory (.map []) = none := by
  refine trouble?_eq_none_iff.mpr fun p => ⟨by cases p <;> rfl, ?_⟩
  have hloss : p.loss? (.map []) = none := (Part.loss?_eq_none_iff _ p).mpr fun _ => rfl
  have hrefusal := p.refusal?_usual directory
  rw [Part.valueTrouble?, hloss]
  cases p <;> exact hrefusal

/-- There are three sections, and the first that answers counts. -/
theorem findSome?_parts {α : Type} (f : Part → Option α) :
    parts.findSome? f = (f .vars).or ((f .filter).or (f .log)) := by
  rw [parts, List.findSome?_cons, List.findSome?_cons, List.findSome?_cons, List.findSome?_nil]
  cases f .vars <;> cases f .filter <;> cases f .log <;> rfl

/-! ## The settings of a document -/

/-- The settings that a document chooses. -/
def ofDocument (directory : Path) (document : Datum) : Settings :=
  let usual := (Draft.ofDirectory directory).settings
  let setting (name : Text) (present : Datum) : Datum := (document.field? name).getD present
  Draft.finish
    { settings := { usual with
        appName := setting "app_name" usual.appName
        version := setting "version" usual.version
        debug := setting "debug" usual.debug
        logDirectory := setting "log_dir" usual.logDirectory }
      vars := Part.vars.read document.value
      filter := Part.filter.read document.value
      log := Part.log.read document.value }

/-- Each setting is what the document chooses, but for switches of accounts that are lost. -/
theorem value_ofDocument (directory : Path) (id : Option Nat) (entries : List (Datum × Datum))
    (st : Setting)
    (h : st = .accounts →
      Section.loses "accounts" (Part.vars.entries (Datum.map id entries).value) = false) :
    st.value (ofDocument directory (.map id entries)) =
      st.chosen directory (Datum.map id entries).value := by
  -- Inside of a section: what is always known there cannot be lost.
  have hpart : ∀ (p : Part) (name : Text) (usual : Value), name ≠ Section.tableName →
      p.initial.own.get? name = some usual → p.initial.common.get? name = some usual →
      ((p.read (Datum.map id entries).value).get? name).getD .null =
        (Section.given? name (p.entries (Datum.map id entries).value)).getD usual := by
    intro p name usual hname hown hcommon
    have halways : p.initial.alwaysKnows name = true := by rw [Section.alwaysKnows, hcommon]; rfl
    rw [Part.get?_read hname halways (hown.trans hcommon.symm), hcommon]
    cases Section.given? name (p.entries (Datum.map id entries).value) <;> rfl
  cases st with
  | appName => exact Datum.value_getD_field? id entries _ _
  | version => exact Datum.value_getD_field? id entries _ _
  | debug => exact Datum.value_getD_field? id entries _ _
  | logDirectory => exact Datum.value_getD_field? id entries _ _
  | enabled => exact hpart .vars _ (.bool true) (by decide) rfl rfl
  | scriptPath => exact hpart .filter _ (.text []) (by decide) rfl rfl
  | defaultFolder => exact hpart .filter _ (.text "INBOX") (by decide) rfl rfl
  | level => exact hpart .log _ (.text "INFO") (by decide) rfl rfl
  | jsonFormat => exact hpart .log _ (.bool false) (by decide) rfl rfl
  | consoleOutput => exact hpart .log _ (.bool true) (by decide) rfl rfl
  -- the switches of accounts are known only as long as the table of the section has them
  | accounts =>
    show ((Part.vars.read (Datum.map id entries).value).get? "accounts").getD .null = _
    rw [Part.get?_accounts_read, h rfl]
    rfl

/-! ## Checks -/

namespace Part

/-- What bars the check of a section. -/
def checkBar (s : Settings) : Part → Option Fault
  | .vars => s.vars.checkBar
  | .filter => s.filter.checkBar
  | .log => s.log.checkBar

/-- The name of the check is known in every section, and nothing stands under it at first. -/
theorem get?_checkName (p : Part) (document : Value) :
    (p.read document).get? Section.checkName =
      Section.given? Section.checkName (p.entries document) := by
  have halways : p.initial.alwaysKnows Section.checkName = true := by cases p <;> rfl
  have hown : p.initial.own.get? Section.checkName = none := by cases p <;> rfl
  have hcommon : p.initial.common.get? Section.checkName = none := by cases p <;> rfl
  rw [get?_read (by decide) halways (hown.trans hcommon.symm), hcommon, Option.or_none]

/-- A check is in the way of nothing unless an entry took its place or what it needs is gone. -/
theorem obstacle_checkName (p : Part) (document : Value) (needed : List Text) :
    ((p.read document).obstacle Section.checkName needed).map Failure.fault =
      (p.bar? document).or
        (if needed.all fun name => ((p.read document).get? name).isSome then none
        else some (.fault .noOperation)) := by
  rw [Section.obstacle, get?_checkName, bar?]
  split
  · rfl
  · split <;> rfl

/-- The check of a section is barred by an entry in its place, or by a loss. -/
theorem checkBar_ofDocument (directory : Path) (document : Datum) (p : Part) :
    (p.checkBar (ofDocument directory document)).map Failure.fault =
      (p.bar? document.value).or (p.loss? document.value) := by
  cases p with
  | vars =>
    have hknown : vars.initial.alwaysKnows vars.checked.name = false := rfl
    have hbar := vars.obstacle_checkName document.value ["accounts"]
    rw [List.all_cons, List.all_nil, Bool.and_true, get?_accounts_read] at hbar
    refine hbar.trans ?_
    rw [loss?, hknown]
    show _ = Option.or _
      (if Section.loses "accounts" (vars.entries document.value) = true then _ else _)
    cases Section.loses "accounts" (vars.entries document.value) <;> rfl
  | filter =>
    have hloss : filter.loss? document.value = none := (loss?_eq_none_iff _ _).mpr nofun
    rw [hloss]
    exact filter.obstacle_checkName document.value []
  | log =>
    have hloss : log.loss? document.value = none := (loss?_eq_none_iff _ _).mpr nofun
    rw [hloss]
    exact log.obstacle_checkName document.value []

end Part

/-- Accounts are checked in order, up to the first without a switch. -/
theorem validateAccounts_eq (entries : List (Value × Value)) :
    VariablesSettings.validateAccounts entries =
      unlessBarred (accountsTrouble? (.map entries)) (.ok ()) := by
  induction entries with
  | nil => rfl
  | cons entry rest ih =>
    obtain ⟨name, switch⟩ := entry
    cases switch with
    | bool b => exact ih
    | _ => rfl

/-- Settings are refused for the first section of which the check is barred or refuses a value. -/
theorem validate_eq (s : Settings) :
    s.validate =
      unlessBarred
        (parts.findSome? fun p =>
          ((p.checkBar s).map .fault).or (p.refusal? (p.checked.value s)))
        (.ok ()) := by
  -- each check is barred, or it looks at the value of one setting
  have hvars : s.vars.validate = unlessBarred (((Part.vars.checkBar s).map .fault).or
      (Part.vars.refusal? (Part.vars.checked.value s))) (.ok ()) := by
    rw [← unlessBarred_unlessBarred]
    unfold VariablesSettings.validate
    congr 1
    show _ = unlessBarred (accountsTrouble? s.vars.accounts) _
    cases s.vars.accounts with
    | map entries => exact validateAccounts_eq entries
    | _ => rfl
  have hfilter : s.filter.validate = unlessBarred (((Part.filter.checkBar s).map .fault).or
      (Part.filter.refusal? (Part.filter.checked.value s))) (.ok ()) := by
    rw [← unlessBarred_unlessBarred]
    unfold FilterSettings.validate
    congr 1
    show _ = unlessBarred (if s.filter.defaultFolder.isTruthy then _ else _) _
    split <;> rfl
  have hlog : s.log.validate = unlessBarred (((Part.log.checkBar s).map .fault).or
      (Part.log.refusal? (Part.log.checked.value s))) (.ok ()) := by
    rw [← unlessBarred_unlessBarred]
    unfold LogSettings.validate
    congr 1
    show _ = unlessBarred (levelTrouble? s.log.level) _
    cases s.log.level with
    | text t =>
      unfold levelTrouble?
      dsimp only
      split <;> rfl
    | _ => rfl
  unfold validate
  rw [hvars, hfilter, hlog, unlessBarred_bind, unlessBarred_bind, unlessBarred_unlessBarred,
    unlessBarred_unlessBarred, findSome?_parts, Option.or_assoc]

/-- Settings that pass their checks have values that are not refused. -/
theorem refusal?_of_validate {s : Settings} (h : s.validate = .ok ()) (p : Part) :
    p.refusal? (p.checked.value s) = none := by
  rw [validate_eq, unlessBarred_eq_ok_iff, List.findSome?_eq_none_iff] at h
  exact (Option.or_eq_none_iff.mp (h.1 p p.mem_parts)).2

/-- The settings of a document are refused for the first trouble with their values. -/
theorem validate_ofDocument (directory : Path) (id : Option Nat) (entries : List (Datum × Datum)) :
    (ofDocument directory (.map id entries)).validate =
      unlessBarred (parts.findSome? (·.valueTrouble? directory (Datum.map id entries).value))
        (.ok ()) := by
  rw [validate_eq]
  congr 2
  funext p
  rw [Part.checkBar_ofDocument, Part.valueTrouble?, Option.or_assoc]
  congr 1
  cases hloss : p.loss? (Datum.map id entries).value with
  | some fault => rfl
  | none =>
    have hkept := (Part.loss?_eq_none_iff _ p).mp hloss
    rw [value_ofDocument directory id entries p.checked]
    intro hchecked
    refine hkept ?_
    cases p with
    | vars => rfl
    | _ => cases hchecked

end Settings

end MailFilter
