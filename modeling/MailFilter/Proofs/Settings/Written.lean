import Mathlib
import MailFilter.Proofs.Settings.Trouble
import MailFilter.Settings.Writing

/-!
# What settings are written as

Settings are written section by section. What is written are the settings with their values, but for
the directory of log files, and for the settings of a section in which something else has taken the
place of their list. A document that means what was written gives the same settings, and it passes the
checks that they have passed.

- `Settings.written`, `Settings.entriesOf`: the document, and what it means.
- `Settings.text_eq_ok_iff`: when settings can be written, and as what.
- `Settings.IsPlain`: settings that can be written in every format that refuses no plain document.
- `DocumentFormat.WritesPlain`: such a format, and YAML is one.
- `Settings.keeps`: whether a setting is written.
- `Settings.chosen_entriesOf`: a document chooses what was written.
- `Settings.trouble?_entriesOf`: what has passed the checks passes them again.
-/

namespace MailFilter

namespace Settings

variable {s : Settings} {p : Part} {st : Setting} {format : DocumentFormat}

/-! ## What is written -/

namespace Part

/-- The settings of a section, in the order in which they are written. -/
def settings : Part → List Setting
  | .vars => [.enabled, .accounts]
  | .filter => [.scriptPath, .defaultFolder]
  | .log => [.level, .jsonFormat, .consoleOutput]

/-- What has taken the place of the list of the settings of a section. -/
def listing (s : Settings) : Part → Option Value
  | .vars => s.vars.listing
  | .filter => s.filter.listing
  | .log => s.log.listing

/-- The settings of a section with their values, as far as they are written. -/
def listed (s : Settings) (p : Part) : List (Text × Value) :=
  Settings.listed (p.listing s) (p.settings.map fun st => (st.name, st.value s))

/-- Why a section cannot be copied. -/
def copyFault? (s : Settings) (p : Part) : Option Fault :=
  (listingFault? (p.listing s)).or
    (if (p.listed s).any fun (_, v) => v.isEndless then some .tooDeep else none)

end Part

/-- The entries of a settings file. -/
def written (s : Settings) : List (Datum × Datum) :=
  [(.plain (.text "app_name"), s.appName), (.plain (.text "version"), s.version),
    (.plain (.text "debug"), s.debug)] ++
    parts.map fun p => sectionEntry p.name (p.listed s)

/-- A section is copied if its list of settings is in place and no value in it contains itself. -/
theorem copied_eq (listing : Option Value) (name : Text) (settings : List (Text × Value)) :
    copied listing name settings =
      unlessBarred ((listingFault? listing).or
        (if settings.any fun (_, v) => v.isEndless then some .tooDeep else none))
        (.ok (sectionEntry name settings)) := by
  unfold copied
  rw [← unlessBarred_unlessBarred]
  congr 1
  split <;> rfl

/-- Settings are put down section by section, or not at all. -/
theorem document_eq (s : Settings) :
    s.document = unlessBarred (parts.findSome? (·.copyFault? s)) (.ok s.written) := by
  have hsections : ([s.vars.listing, s.filter.listing, s.log.listing].zip s.sections).mapM
      (fun entry => copied entry.1 entry.2.1 entry.2.2) =
      unlessBarred (parts.findSome? (·.copyFault? s))
        (.ok (parts.map fun p => sectionEntry p.name (p.listed s))) := by
    show (parts.map fun p => (p.listing s, p.name, p.listed s)).mapM _ = _
    rw [List.mapM_map, ← mapM_unlessBarred]
    congr 1
    funext p
    exact copied_eq (p.listing s) p.name (p.listed s)
  unfold document
  dsimp only
  refine (congrArg (· >>= _) hsections).trans ?_
  rw [unlessBarred_bind]
  rfl

/-- Settings are written if each section can be copied and the format can write the document. -/
theorem text_eq_ok_iff {t : Text} :
    s.text format = .ok t ↔
      parts.findSome? (·.copyFault? s) = none ∧ format.write s.written = .ok t := by
  unfold text
  rw [document_eq]
  cases parts.findSome? (·.copyFault? s) with
  | some fault => exact ⟨nofun, fun h => nomatch h.1⟩
  | none =>
    show (format.write s.written).mapError Failure.fault = .ok t ↔ _
    cases format.write s.written with
    | error fault => exact ⟨nofun, fun h => nomatch h.2⟩
    | ok written => exact ⟨fun h => ⟨rfl, by cases h; rfl⟩, fun h => by cases h.2; rfl⟩

/-! ## The document that is read again -/

/-- Whether a setting is written. -/
def keeps (s : Settings) (st : Setting) : Bool :=
  match st.part? with
  | none => st ≠ .logDirectory
  | some p => (p.listing s).isNone

/-- The entries of a section as they are read. -/
def Part.entriesOf (s : Settings) (p : Part) : List (Value × Value) :=
  (p.listed s).map fun (name, v) => (.text name, v)

/-- The entries of a settings file as they are read. -/
def entriesOf (s : Settings) : List (Value × Value) :=
  [(.text "app_name", s.appName.value), (.text "version", s.version.value),
    (.text "debug", s.debug.value)] ++
    parts.map fun p => (.text p.name, .map (p.entriesOf s))

/-- A section is read as the mapping of its settings. -/
theorem value_sectionEntry (name : Text) (settings : List (Text × Value)) :
    (sectionEntry name settings).2.value = .map (settings.map fun (name, v) => (.text name, v)) := by
  show Value.map (Datum.valuesOfEntries (settings.map fun (name, v) =>
    (Datum.plain (.text name), Datum.ofValue v))) = _
  congr 1
  induction settings with
  | nil => rfl
  | cons entry rest ih =>
    obtain ⟨name, v⟩ := entry
    rw [List.map_cons, List.map_cons, Datum.valuesOfEntries, ih, Datum.value_ofValue]
    rfl

/-- What is written means the entries that are read. -/
theorem valuesOfEntries_written (s : Settings) :
    Datum.valuesOfEntries s.written = s.entriesOf := by
  unfold written entriesOf parts
  rw [List.map_cons, List.map_cons, List.map_cons, List.map_nil]
  -- _
  show _ :: _ :: _ :: (_, (sectionEntry Part.vars.name (Part.vars.listed s)).2.value) ::
    (_, (sectionEntry Part.filter.name (Part.filter.listed s)).2.value) ::
    (_, (sectionEntry Part.log.name (Part.log.listed s)).2.value) :: [] = _
  rw [value_sectionEntry, value_sectionEntry, value_sectionEntry]
  rfl

/-- Every section is written under its name. -/
theorem field?_name (s : Settings) (p : Part) :
    (Value.map s.entriesOf).field? p.name = some (.map (p.entriesOf s)) := by
  cases p <;> rfl

/-- Its entries are those that were listed. -/
theorem entries_entriesOf (s : Settings) (p : Part) :
    p.entries (.map s.entriesOf) = p.entriesOf s := by
  rw [Part.entries, field?_name]

/-- A section gives the settings that it lists. -/
theorem given?_entriesOf (s : Settings) (hpart : st.part? = some p) :
    Section.given? st.name (p.entriesOf s) =
      if (p.listing s).isNone then some (st.value s) else none := by
  unfold Part.entriesOf Part.listed Settings.listed
  cases hlisting : p.listing s with
  | some v => rfl
  | none => cases st <;> cases hpart <;> rfl

/-- What is written in a section has names of settings, and no name that means something else. -/
theorem entryFault?_entriesOf (s : Settings) (p : Part) :
    (p.entriesOf s).findSome? Section.entryFault? = none := by
  unfold Part.entriesOf Part.listed Settings.listed
  cases p.listing s with
  | some v => rfl
  | none => cases p <;> rfl

/-- Nothing in a section that is written takes the place of its check. -/
theorem given?_checkName_entriesOf (s : Settings) (p : Part) :
    Section.given? Section.checkName (p.entriesOf s) = none := by
  unfold Part.entriesOf Part.listed Settings.listed
  cases p.listing s with
  | some v => rfl
  | none => cases p <;> rfl

/-- Nothing in a section that is written takes away what it needs. -/
theorem loses_entriesOf (s : Settings) (name : Text) (p : Part) :
    Section.loses name (p.entriesOf s) = false := by
  unfold Part.entriesOf Part.listed Settings.listed
  cases p.listing s with
  | some v => rfl
  | none => cases p <;> rfl

/-- Each setting is what was written, or its usual value if it was not written. -/
theorem chosen_entriesOf (s : Settings) (directory : Path) (st : Setting) :
    st.chosen directory (.map s.entriesOf) = if s.keeps st then st.value s else st.usual directory := by
  have hgiven : st.given? (.map s.entriesOf) = if s.keeps st then some (st.value s) else none := by
    unfold Setting.given? keeps
    cases hpart : st.part? with
    | none => cases st <;> cases hpart <;> rfl
    | some p =>
      dsimp only
      rw [entries_entriesOf, given?_entriesOf s hpart]
  rw [Setting.chosen, hgiven]
  split <;> rfl

/-! ## Plain settings -/

/-- A truth value, a text, or a mapping from texts to truth values. -/
def isPlain : Value → Bool
  | .bool _ | .text _ => true
  | .map entries => entries.all fun (k, v) => Setting.isText k && Setting.isSwitch v
  | _ => false

/-- Settings with plain values, in sections whose lists of settings are in place. -/
structure IsPlain (s : Settings) : Prop where
  value : ∀ st : Setting, isPlain (st.value s) = true
  listing : ∀ p : Part, p.listing s = none

/-- A mapping can be shown if its keys and its values can. -/
theorem entriesShowable_eq_all (entries : List (Value × Value)) :
    Value.entriesShowable entries = entries.all fun (k, v) => k.isShowable && v.isShowable := by
  induction entries with
  | nil => rfl
  | cons entry rest ih =>
    obtain ⟨k, v⟩ := entry
    rw [Value.entriesShowable, ih, List.all_cons]

/-- A mapping contains itself only by a key or a value that does. -/
theorem entriesEndless_eq_any (entries : List (Value × Value)) :
    Value.entriesEndless entries = entries.any fun (k, v) => k.isEndless || v.isEndless := by
  induction entries with
  | nil => rfl
  | cons entry rest ih =>
    obtain ⟨k, v⟩ := entry
    rw [Value.entriesEndless, ih, List.any_cons]

/-- The entries of a plain mapping are texts with truth values. -/
theorem exists_of_isPlain_map {entries : List (Value × Value)} (h : isPlain (.map entries) = true) :
    ∀ entry ∈ entries, ∃ name b, entry = (.text name, .bool b) := by
  intro (k, v) hentry
  obtain ⟨hkey, hvalue⟩ := Bool.and_eq_true_iff.mp (List.all_eq_true.mp h (k, v) hentry)
  cases k with
  | text name =>
    cases v with
    | bool b => exact ⟨name, b, rfl⟩
    | _ => cases hvalue
  | _ => cases hkey

/-- A mapping from texts to plain values. -/
def isPlainTable : Value → Bool
  | .map entries => entries.all fun (k, v) => Setting.isText k && isPlain v
  | _ => false

/-- A document of which everything is plain: plain values under texts, and mappings from texts to
plain values. -/
def isPlainDocument (entries : List (Value × Value)) : Bool :=
  entries.all fun (k, v) => Setting.isText k && (isPlain v || isPlainTable v)

/-- Plain values are shown whatever their size. -/
theorem isShowable_of_isPlain {v : Value} (h : isPlain v = true) : v.isShowable = true := by
  cases v with
  | map entries =>
    rw [Value.isShowable, entriesShowable_eq_all, List.all_eq_true]
    intro entry hentry
    obtain ⟨name, b, rfl⟩ := exists_of_isPlain_map h entry hentry
    rfl
  | bool => rfl
  | text => rfl
  | _ => cases h

/-- So are mappings from texts to plain values. -/
theorem isShowable_of_isPlainTable {v : Value} (h : isPlainTable v = true) :
    v.isShowable = true := by
  cases v with
  | map entries =>
    rw [Value.isShowable, entriesShowable_eq_all, List.all_eq_true]
    intro (k, v) hentry
    obtain ⟨hkey, hvalue⟩ := Bool.and_eq_true_iff.mp (List.all_eq_true.mp h (k, v) hentry)
    cases k with
    | text name => exact isShowable_of_isPlain hvalue
    | _ => cases hkey
  | _ => cases h

/-- Plain values do not contain themselves. -/
theorem isEndless_of_isPlain {v : Value} (h : isPlain v = true) : v.isEndless = false := by
  cases v with
  | map entries =>
    rw [Value.isEndless, entriesEndless_eq_any, List.any_eq_false]
    intro entry hentry
    obtain ⟨name, b, rfl⟩ := exists_of_isPlain_map h entry hentry
    exact Bool.false_ne_true
  | bool => rfl
  | text => rfl
  | _ => cases h

/-- What is listed of plain settings is plain. -/
theorem IsPlain.of_mem_listed (h : s.IsPlain) {name : Text} {v : Value}
    (hmem : (name, v) ∈ p.listed s) : isPlain v = true := by
  rw [Part.listed, h.listing p] at hmem
  obtain ⟨st, -, hst⟩ := List.mem_map.mp hmem
  cases hst
  exact h.value st

/-- What is written of plain settings is a plain document. -/
theorem IsPlain.isPlainDocument (h : s.IsPlain) : isPlainDocument s.entriesOf = true := by
  have hsection : ∀ p : Part, isPlainTable (.map (p.entriesOf s)) = true := by
    intro p
    refine List.all_eq_true.mpr fun entry hentry => ?_
    obtain ⟨⟨name, v⟩, hmem, rfl⟩ := List.mem_map.mp hentry
    exact h.of_mem_listed hmem
  refine List.all_eq_true.mpr fun entry hentry => ?_
  -- the three settings outside of the sections, and the sections
  rcases List.mem_append.mp hentry with htop | hpart
  · simp only [List.mem_cons, List.not_mem_nil, or_false] at htop
    rcases htop with rfl | rfl | rfl
    · exact Bool.or_eq_true_iff.mpr (.inl (h.value .appName))
    · exact Bool.or_eq_true_iff.mpr (.inl (h.value .version))
    · exact Bool.or_eq_true_iff.mpr (.inl (h.value .debug))
  · obtain ⟨p, -, rfl⟩ := List.mem_map.mp hpart
    exact Bool.or_eq_true_iff.mpr (.inr (hsection p))

end Settings

/-- A format in which no plain document is refused. -/
def DocumentFormat.WritesPlain (format : DocumentFormat) : Prop :=
  ∀ entries, Settings.isPlainDocument (Datum.valuesOfEntries entries) = true →
    ∃ t, format.write entries = .ok t

/-- YAML refuses only what cannot be shown. -/
theorem DocumentFormat.writesPlain_yaml : yaml.WritesPlain := by
  intro entries hplain
  have hshowable : Value.entriesShowable (Datum.valuesOfEntries entries) = true := by
    rw [Settings.entriesShowable_eq_all]
    refine List.all_eq_true.mpr fun (k, v) hentry => ?_
    obtain ⟨hkey, hvalue⟩ := Bool.and_eq_true_iff.mp (List.all_eq_true.mp hplain (k, v) hentry)
    have hk : k.isShowable = true := by
      cases k with
      | text => rfl
      | _ => cases hkey
    have hv : v.isShowable = true := by
      rcases Bool.or_eq_true_iff.mp hvalue with hvalue | htable
      · exact Settings.isShowable_of_isPlain hvalue
      · exact Settings.isShowable_of_isPlainTable htable
    exact Bool.and_eq_true_iff.mpr ⟨hk, hv⟩
  exact ⟨_, if_pos hshowable⟩

namespace Settings

variable {s : Settings} {p : Part} {st : Setting} {format : DocumentFormat}

/-- Plain settings can be written in such a format. -/
theorem IsPlain.exists_text (h : s.IsPlain) (hformat : format.WritesPlain) :
    ∃ t, s.text format = .ok t := by
  -- plain values do not contain themselves, so every section can be copied
  have hcopied : ∀ p : Part, p.copyFault? s = none := by
    intro p
    have hendless : ((p.listed s).any fun (_, v) => v.isEndless) = false := by
      rw [List.any_eq_false]
      intro ⟨name, v⟩ hmem
      show ¬v.isEndless = true
      rw [isEndless_of_isPlain (h.of_mem_listed hmem)]
      exact Bool.false_ne_true
    rw [Part.copyFault?, h.listing p, hendless]
    rfl
  have hdocument := h.isPlainDocument
  rw [← valuesOfEntries_written] at hdocument
  obtain ⟨t, ht⟩ := hformat s.written hdocument
  refine ⟨t, text_eq_ok_iff.mpr ⟨?_, ht⟩⟩
  rw [findSome?_parts, hcopied, hcopied, hcopied]
  rfl

/-! ## The checks -/

/-- No section of what is written is refused for its content. -/
theorem contentTrouble?_entriesOf (s : Settings) (p : Part) :
    p.contentTrouble? (.map s.entriesOf) = none := by
  have hentries := entryFault?_entriesOf s p
  unfold Part.contentTrouble?
  rw [field?_name]
  dsimp only
  split
  · rfl
  · rw [hentries]
    rfl

/-- A section that is written has passed its check, or has the usual settings. -/
theorem valueTrouble?_entriesOf (directory : Path) (hvalid : s.validate = .ok ()) (p : Part) :
    p.valueTrouble? directory (.map s.entriesOf) = none := by
  have hbar : p.bar? (.map s.entriesOf) = none := by
    rw [Part.bar?, entries_entriesOf, given?_checkName_entriesOf]
    rfl
  have hloss : p.loss? (.map s.entriesOf) = none := by
    refine (Part.loss?_eq_none_iff _ p).mpr fun _ => ?_
    rw [entries_entriesOf]
    exact loses_entriesOf s _ _
  rw [Part.valueTrouble?, hbar, hloss, chosen_entriesOf]
  -- a section of which the settings are not written has the usual ones, and these pass
  split
  · exact refusal?_of_validate hvalid p
  · exact p.refusal?_usual directory

/-- Settings that pass their checks are written as a document that passes them. -/
theorem trouble?_entriesOf (directory : Path) (hvalid : s.validate = .ok ()) :
    trouble? directory (.map s.entriesOf) = none :=
  trouble?_eq_none_iff.mpr fun p =>
    ⟨contentTrouble?_entriesOf s p, valueTrouble?_entriesOf directory hvalid p⟩

end Settings

end MailFilter
