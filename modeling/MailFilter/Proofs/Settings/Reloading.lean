import Mathlib
import MailFilter.Proofs.Files.Path
import MailFilter.Proofs.Settings.Outcome
import MailFilter.Proofs.Settings.Written
import MailFilter.Proofs.Yaml.Document

/-!
# Settings that are written and read again

What settings are written as is read as any other file is. That the text of a document means the
document is a matter of the format; here it is a condition on the text at hand, which can be computed.
Of the format two things are taken for granted: that it is written in printable ASCII, and that plain
documents are never refused.

- `FileTree.CanWrite`: whether a file can be written at a path.
- `Settings.ReadsBack`: a text means the document that was written as this text.
- `Settings.yields_load`: settings that have been read have passed their checks.
- `Settings.load_save`: what is written and read again is what it was.
-/

namespace MailFilter

/-! ## Values that agree -/

namespace Value

mutual

/-- Whether two values are the same truth value, the same text, or mappings with the same entries. -/
def agrees : Value → Value → Bool
  | .bool a, .bool b => a = b
  | .text s, .text t => s = t
  | .map entries, .map others => entriesAgree entries others
  | _, _ => false

/-- Whether the entries of two mappings are the same, one by one. -/
def entriesAgree : List (Value × Value) → List (Value × Value) → Bool
  | [], [] => true
  | (k, v) :: rest, (key, value) :: others =>
    k.agrees key && v.agrees value && entriesAgree rest others
  | _, _ => false

end

mutual

theorem eq_of_agrees : ∀ {v w : Value}, v.agrees w = true → v = w
  | .bool a, .bool b, h => by
    unfold agrees at h
    rw [of_decide_eq_true h]
  | .text s, .text t, h => by
    unfold agrees at h
    rw [of_decide_eq_true h]
  | .map entries, .map others, h => by
    unfold agrees at h
    rw [eq_of_entriesAgree h]

theorem eq_of_entriesAgree : ∀ {entries others : List (Value × Value)},
    entriesAgree entries others = true → entries = others
  | [], [], _ => rfl
  | (k, v) :: rest, (key, value) :: others, h => by
    unfold entriesAgree at h
    obtain ⟨hentry, hrest⟩ := Bool.and_eq_true_iff.mp h
    obtain ⟨hkey, hvalue⟩ := Bool.and_eq_true_iff.mp hentry
    rw [eq_of_agrees hkey, eq_of_agrees hvalue, eq_of_entriesAgree hrest]

end

end Value

/-- Whether a file can be written at a path once its directory has been made. -/
def FileTree.CanWrite (files : FileTree) (p : Path) : Prop :=
  ∃ made after, files.makeDirectories p.parent = .ok made ∧ made.write p [] = .ok after

namespace Settings

variable {s : Settings}

/-! ## Reading -/

section Reloading

variable {files : FileTree} {e : Environment} {file : Option Text} {overridden : Bool}
  {format : DocumentFormat}

/-- A document does not name the directory of settings. -/
theorem yields_take (draft : Draft) (document : Datum) :
    Yields (fun taken => taken.settings.directory = draft.settings.directory)
      (draft.take document) := by
  unfold Draft.take
  exact .bind fun vars _ => .bind fun filter _ => .bind fun log _ => .ok rfl

/-- Settings that have been read keep their directory, and have passed their checks. -/
theorem yields_load {directory : Path} (h : e.settingsDirectory = .ok directory) :
    Yields (fun s => s.directory = directory.text ∧ s.validate = .ok ())
      (load files e file overridden format) := by
  -- Whether a file has been taken over or not, the checks come last.
  have hchecked : ∀ draft : Draft, draft.settings.directory = directory.text →
      Yields (fun s => s.directory = directory.text ∧ s.validate = .ok ())
        ((if overridden then draft.override e else draft).finish.validate >>= fun _ =>
          .ok (if overridden then draft.override e else draft).finish) := by
    intro draft hdraft
    refine .bind fun _ hvalid => .ok ⟨?_, hvalid⟩
    cases overridden <;> exact hdraft
  unfold load
  rw [h]
  show Yields _ (hasFile files directory file >>= _)
  refine .bind fun there _ => ?_
  cases there with
  | false => exact hchecked _ rfl
  | true =>
    refine .bind fun document _ => .bind fun draft hdraft => ?_
    exact hchecked draft (yields_take _ document draft hdraft)

/-- Settings are not read without a directory for them. -/
theorem settingsDirectory_of_load (h : load files e file overridden format = .ok s) :
    ∃ directory, e.settingsDirectory = .ok directory := by
  unfold load at h
  cases hdirectory : e.settingsDirectory with
  | error fault => rw [hdirectory] at h; cases h
  | ok directory => exact ⟨directory, rfl⟩

/-! ## Writing and reading again -/

/-- A mapping is read back from the text of settings, up to what is shared in it. -/
def ReadsBack (format : DocumentFormat) (s : Settings) (t : Text) : Prop :=
  ∃ id back, format.read t = .ok (.map id back) ∧
    Datum.valuesOfEntries back = Datum.valuesOfEntries s.written

/-- Where the file can be written, the text of the settings is written there. -/
theorem exists_save {path : Path} {p : Option Text} {t : Text}
    (hpath : filePath (Path.ofText s.directory) p = path) (hwrite : files.CanWrite path)
    (htext : s.text format = .ok t) :
    ∃ after, save files s p format = .ok after ∧
      after.read path = .ok ((Utf8.encode? t).getD []) := by
  obtain ⟨made, opened, hmade, hopened⟩ := hwrite
  obtain ⟨after, hafter⟩ := FileTree.exists_write_write hopened ((Utf8.encode? t).getD [])
  refine ⟨after, ?_, FileTree.read_write hafter⟩
  unfold save
  dsimp only
  rw [hpath, hmade]
  show (save.writing path (made.write path []) >>= fun files => s.text format >>= fun t =>
    save.writing path (files.write path ((Utf8.encode? t).getD []))) = _
  rw [hopened, htext]
  show save.writing path (opened.write path ((Utf8.encode? t).getD [])) = _
  rw [hafter]
  rfl

/-- In a format of printable ASCII that refuses no plain document, settings that have been read are
written and read again with the same values, as far as they are written. Plain settings can always be
written. -/
theorem load_save {p : Option Text} (hprinted : format.WritesPrinted)
    (hplain : format.WritesPlain) (hload : load files e file overridden format = .ok s)
    (hwrite : files.CanWrite (filePath (Path.ofText s.directory) p)) :
    (s.IsPlain → ∃ t, s.text format = .ok t) ∧
      ∀ t, s.text format = .ok t → ReadsBack format s t →
        ∃ after s', save files s p format = .ok after ∧ load after e p false format = .ok s' ∧
          ∀ st, st.value s' =
            if s.keeps st then st.value s else st.usual (Path.ofText s.directory) := by
  refine ⟨fun h => h.exists_text hplain, fun t htext hback => ?_⟩
  obtain ⟨directory, hdirectory⟩ := settingsDirectory_of_load hload
  obtain ⟨hsame, hvalid⟩ := yields_load hdirectory s hload
  have hnormal : Path.ofText s.directory = directory := by
    rw [hsame]
    exact Path.ofText_text (Environment.isNormal_of_settingsDirectory hdirectory)
  obtain ⟨after, hsave, hread⟩ := exists_save rfl hwrite htext
  rw [hnormal] at hread ⊢
  obtain ⟨id, back, hdocument, hvalues⟩ := hback
  have hvalue : (Datum.map id back).value = .map s.entriesOf := by
    rw [← valuesOfEntries_written, ← hvalues]
    rfl
  have hfile : readFile after (filePath directory p) format = .ok (.map id back) := by
    have hwritten := (text_eq_ok_iff.mp htext).2
    rw [readFile_of_text (hprinted.readText_of_write hwritten hread), hdocument]
    dsimp only
    rw [hvalue]
    rfl
  have hreload := load_of_readFile hdirectory hread hfile
  rw [hvalue, trouble?_entriesOf directory hvalid] at hreload
  refine ⟨after, _, hsave, hreload, fun st => ?_⟩
  rw [value_ofDocument directory id back st, hvalue, chosen_entriesOf]
  intro _
  rw [hvalue, entries_entriesOf]
  exact loses_entriesOf s _ _

/-- Whether what is read from a text agrees with the settings that were written. -/
def isReadBack (format : DocumentFormat) (s : Settings) (t : Text) : Bool :=
  match format.read t with
  | .ok (.map _ back) => (Datum.map none back).value.agrees (.map (Datum.valuesOfEntries s.written))
  | _ => false

theorem readsBack_of_isReadBack {t : Text} (h : isReadBack format s t = true) :
    ReadsBack format s t := by
  unfold isReadBack at h
  split at h
  · next id back hread =>
    have hvalue : (Datum.map none back).value = .map (Datum.valuesOfEntries s.written) :=
      Value.eq_of_agrees h
    exact ⟨id, back, hread, Value.map.inj hvalue⟩
  · cases h

/-- A folder that a file gives is written to another file, and read from there. -/
theorem load_save_folder :
    DocumentFormat.yaml.WritesPrinted ∧ DocumentFormat.yaml.WritesPlain ∧
    ∃ s, load (filesWith "filter:\n  default_folder: Archive\n") directoryVariable none false = .ok s ∧
      (filesWith "filter:\n  default_folder: Archive\n").CanWrite
        (filePath (Path.ofText s.directory) (some "out.yaml")) ∧
      ∃ t, s.text = .ok t ∧ ReadsBack .yaml s t ∧
        ∃ after s', save (filesWith "filter:\n  default_folder: Archive\n") s (some "out.yaml") =
            .ok after ∧
          load after directoryVariable (some "out.yaml") false = .ok s' ∧
          ∀ st, st.value s' =
            if s.keeps st then st.value s else st.usual (Path.ofText s.directory) := by
  have hread : (load (filesWith "filter:\n  default_folder: Archive\n") directoryVariable none
      false).toOption.map (fun s => s.text.toOption.map (isReadBack .yaml s)) = some (some true) := by
    decide +kernel
  obtain ⟨s, hload, hback⟩ := exists_of_map_toOption hread
  obtain ⟨t, htext, hback⟩ := exists_of_map_toOption hback
  have hwrite : (filesWith "filter:\n  default_folder: Archive\n").CanWrite
      (filePath (Path.ofText s.directory) (some "out.yaml")) := by
    refine ⟨filesWith "filter:\n  default_folder: Archive\n", _, ?_, rfl⟩
    rw [FileTree.makeDirectories]
    rfl
  have hback := readsBack_of_isReadBack hback
  have hprinted := DocumentFormat.writesPrinted_yaml
  have hplain := DocumentFormat.writesPlain_yaml
  exact ⟨hprinted, hplain, s, hload, hwrite, t, htext, hback,
    (load_save hprinted hplain hload hwrite).2 t htext hback⟩

/-- The directory of log files that a file gives is not written. -/
theorem logDirectory_not_kept :
    ∃ s after s', load (filesWith "log_dir: mail\n") directoryVariable none false = .ok s ∧
      save (filesWith "log_dir: mail\n") s (some "out.yaml") = .ok after ∧
      load after directoryVariable (some "out.yaml") false = .ok s' ∧
      Setting.logDirectory.value s' ≠ Setting.logDirectory.value s := by
  have hvalues : ((load (filesWith "log_dir: mail\n") directoryVariable none false).toOption.bind
      fun s => (save (filesWith "log_dir: mail\n") s (some "out.yaml")).toOption.bind fun after =>
        (load after directoryVariable (some "out.yaml") false).toOption.map fun s' =>
          (s.logDirectory.value.isText "mail", s'.logDirectory.value.isText "mail")) =
      some (true, false) := by decide +kernel
  obtain ⟨s, hload, hvalues⟩ := exists_of_bind_toOption hvalues
  obtain ⟨after, hsave, hvalues⟩ := exists_of_bind_toOption hvalues
  obtain ⟨s', hreload, hvalues⟩ := exists_of_map_toOption hvalues
  obtain ⟨hgiven, hagain⟩ := Prod.mk.inj hvalues
  refine ⟨s, after, s', hload, hsave, hreload, fun hsame => ?_⟩
  rw [show s'.logDirectory.value = s.logDirectory.value from hsame, hgiven] at hagain
  cases hagain

end Reloading

end Settings

end MailFilter
