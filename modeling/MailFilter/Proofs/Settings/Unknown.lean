import Mathlib
import MailFilter.Proofs.Settings.Outcome

/-!
# Unknown entries

An entry of a section that names no setting is meant to make no difference. It makes none if its key
is a text under which a section has nothing. But a section has more than its settings: its check, the
question whether variables are enabled and the list of its settings go by names too, three more names
stand for the section itself, and a key that is no text ends the reading.

- `Settings.Part.passesOver`: the keys of entries that make no difference.
- `Settings.Part.Adds`: a document with one more entry in a section.
- `Settings.SameOutcome`: outcomes that no one can tell apart.
- `Settings.Part.sameOutcome_of_passesOver`: an entry that is passed over changes no outcome.
- `Settings.Part.not_sameOutcome_single`: every other one changes some outcome.
-/

namespace MailFilter

namespace Section

variable {name : Text} {key v : Value}

/-- Names that stand for a section itself, and not for something in it. -/
def ownNames : List Text := [kindName, watchersName, tableName]

/-- Nothing is wrong with an entry under a text that does not stand for the section itself. -/
theorem entryFault?_of_not_mem (h : name ∉ ownNames) (v : Value) :
    entryFault? (.text name, v) = none := by
  simp only [ownNames, List.mem_cons, List.not_mem_nil, or_false, not_or] at h
  obtain ⟨hkind, hwatchers, htable⟩ := h
  show (if name = kindName then _ else _) = none
  rw [if_neg hkind, if_neg hwatchers, if_neg htable]

/-- Under a text that stands for the section itself nothing but a table can be entered. -/
theorem not_mem_of_entryFault? (h : entryFault? (key, .null) = none) :
    ∃ name, key = .text name ∧ name ∉ ownNames := by
  cases key with
  | text name =>
    refine ⟨name, rfl, fun hname => ?_⟩
    simp only [ownNames, List.mem_cons, List.not_mem_nil, or_false] at hname
    rcases hname with rfl | rfl | rfl <;> cases h
  | _ => cases h

/-- An entry says nothing of another name. -/
theorem noted_of_ne {other : Text} (htable : name ∉ ownNames) (hother : name ≠ other)
    (always : Bool) (known : Option Value) (v : Value) :
    noted always other known (.text name, v) = known := by
  have htable : name ≠ tableName := by
    rintro rfl
    exact htable (by decide)
  have hkey : ¬(Value.text name).isText tableName = true := fun h => htable (of_decide_eq_true h)
  have hname : (Value.text name).isText other = false := decide_eq_false hother
  unfold noted
  dsimp only
  rw [if_neg hkey, hname, Bool.false_and, if_neg Bool.false_ne_true]

/-- What stands in the way of an operation depends on the operation and on what it needs. -/
theorem obstacle_congr {s s' : Section} {operation : Text} {needed : List Text}
    (hoperation : s'.get? operation = s.get? operation)
    (hneeded : ∀ name ∈ needed, s'.get? name = s.get? name) :
    s'.obstacle operation needed = s.obstacle operation needed := by
  have hall : (needed.all fun name => (s'.get? name).isSome) =
      needed.all fun name => (s.get? name).isSome := by
    rw [Bool.eq_iff_iff, List.all_eq_true, List.all_eq_true]
    exact forall₂_congr fun name hname => by rw [hneeded name hname]
  rw [obstacle, obstacle, hoperation, hall]

end Section

/-! ## What the settings depend on -/

section Congr

variable {s s' : Section}

/-- A section is read for the names that it starts with, and for no other. -/
theorem VariablesSettings.ofSection_congr
    (h : ∀ name, initial.knows name = true → s'.get? name = s.get? name) :
    ofSection s' = ofSection s := by
  have hcheck := h Section.checkName rfl
  have hswitch := h Section.switchName rfl
  have haccounts := h "accounts" rfl
  rw [ofSection, ofSection, h "enabled" rfl, haccounts,
    h Section.listName rfl,
    Section.obstacle_congr hcheck (List.forall_mem_singleton.mpr haccounts),
    Section.obstacle_congr hswitch (List.forall_mem_nil _)]

/-- The same of the section for filtering. -/
theorem FilterSettings.ofSection_congr
    (h : ∀ name, initial.knows name = true → s'.get? name = s.get? name) :
    ofSection s' = ofSection s := by
  have hcheck := h Section.checkName rfl
  rw [ofSection, ofSection, h "script_path" rfl,
    h "default_folder" rfl, h Section.listName rfl,
    Section.obstacle_congr hcheck (List.forall_mem_nil _)]

/-- The same of the section for logging. -/
theorem LogSettings.ofSection_congr
    (h : ∀ name, initial.knows name = true → s'.get? name = s.get? name) :
    ofSection s' = ofSection s := by
  have hcheck := h Section.checkName rfl
  rw [ofSection, ofSection, h "level" rfl, h "json_format" rfl,
    h "console_output" rfl, h Section.listName rfl,
    Section.obstacle_congr hcheck (List.forall_mem_nil _)]

end Congr

namespace Settings

/-! ## Outcomes -/

/-- Settings that differ at most in which parts of their values are shared. Their sections are the
same, and so is what can be asked of these. -/
structure Agree (s s' : Settings) : Prop where
  value : ∀ st : Setting, st.value s' = st.value s
  vars : s'.vars = s.vars
  filter : s'.filter = s.filter
  log : s'.log = s.log
  directory : s'.directory = s.directory

/-- Outcomes of reading settings that no one can tell apart. -/
inductive SameOutcome : Except Failure Settings → Except Failure Settings → Prop
  | refused (e : Failure) : SameOutcome (.error e) (.error e)
  | settled {s s' : Settings} (h : s.Agree s') : SameOutcome (.ok s) (.ok s')

namespace Agree

variable {s s' : Settings}

/-- Settings that agree pass the same checks, or fail the same one. -/
theorem validate (h : s.Agree s') : s'.validate = s.validate := by
  unfold Settings.validate
  rw [h.vars, h.filter, h.log]

/-- They agree also when the environment has overridden them. -/
theorem overriddenBy (h : s.Agree s') (e : Environment) :
    (s.overriddenBy e).Agree (s'.overriddenBy e) where
  value st := by rw [value_overriddenBy, value_overriddenBy, h.value]
  vars := by
    unfold Settings.overriddenBy
    dsimp only
    rw [h.vars, h.value]
  filter := by
    unfold Settings.overriddenBy
    dsimp only
    rw [h.filter, h.value, h.value]
  log := by
    unfold Settings.overriddenBy
    dsimp only
    rw [h.log, h.value, h.value]
  directory := h.directory

end Agree

/-- Documents in which the same is out of order, and whose settings agree, have one outcome. -/
theorem sameOutcome_of_agree {directory : Path} {document document' : Datum}
    (hcontent : parts.findSome? (·.contentTrouble? document'.value) =
      parts.findSome? (·.contentTrouble? document.value))
    (hagree : (ofDocument directory document).Agree (ofDocument directory document'))
    (e : Environment) (overridden : Bool) :
    SameOutcome (settle directory e overridden document) (settle directory e overridden document') := by
  have hlayers : (layered directory e overridden document).Agree
      (layered directory e overridden document') := by
    unfold layered
    split
    · exact hagree.overriddenBy e
    · exact hagree
  rw [settle_eq, settle_eq, hcontent, hlayers.validate]
  -- the content of the sections is looked at first, then their checks
  cases parts.findSome? (·.contentTrouble? document.value) with
  | some cause => exact .refused cause
  | none =>
    cases (layered directory e overridden document).validate with
    | error cause => exact .refused cause
    | ok => exact .settled hlayers

namespace Part

variable {p : Part} {key : Value} {y y' : Value}

/-! ## Documents with one more entry -/

/-- Whether an entry of a key is passed over: the key is a text, the section has nothing under it, and
it does not stand for the section itself. -/
def passesOver (p : Part) : Value → Bool
  | .text name => !p.initial.knows name && !Section.ownNames.contains name
  | _ => false

/-- A mapping becomes another one by one more entry in a section, which may be absent before. -/
structure Adds (p : Part) (entry : Value × Value) (y y' : Value) : Prop where
  elsewhere : ∀ name, name ≠ p.name → y'.field? name = y.field? name
  inside : ∃ before after, y'.field? p.name = some (.map (before ++ entry :: after)) ∧
    (y.field? p.name = some (.map (before ++ after)) ∨
      y.field? p.name = none ∧ before ++ after = [])

/-- The sections have different names. -/
theorem name_ne {p q : Part} (h : q ≠ p) : q.name ≠ p.name := by
  revert h
  cases p <;> cases q <;> decide

/-- What is passed over has a text for its key. -/
theorem passesOver_eq_true_iff :
    p.passesOver key = true ↔
      ∃ name, key = .text name ∧ p.initial.knows name = false ∧ name ∉ Section.ownNames := by
  cases key with
  | text name => simp [passesOver]
  | _ => exact ⟨nofun, fun ⟨_, h, _⟩ => nomatch h⟩

section Adds

variable {entry : Value × Value} (hadds : p.Adds entry y y')
include hadds

/-- The entries of the section, with the new one and without it. -/
theorem Adds.entries_eq :
    ∃ before after, p.entries y' = before ++ entry :: after ∧ p.entries y = before ++ after := by
  obtain ⟨before, after, hafter, hbefore⟩ := hadds.inside
  refine ⟨before, after, ?_, ?_⟩
  · rw [entries, hafter]
  · rcases hbefore with hbefore | ⟨hbefore, hnone⟩
    · rw [entries, hbefore]
    · rw [entries, hbefore, hnone]

/-- An entry that is in order leaves every section as much in order as it was. -/
theorem Adds.contentTrouble?_eq (hfault : Section.entryFault? entry = none) (q : Part) :
    q.contentTrouble? y' = q.contentTrouble? y := by
  by_cases hq : q = p
  · subst hq
    obtain ⟨before, after, hafter, hbefore⟩ := hadds.inside
    have hentries : (before ++ entry :: after).findSome? Section.entryFault? =
        (before ++ after).findSome? Section.entryFault? := by
      rw [List.findSome?_append, List.findSome?_append, List.findSome?_cons, hfault]
    have htruthy : (Value.map (before ++ entry :: after)).isTruthy = true := by
      simp [Value.isTruthy]
    rcases hbefore with hbefore | ⟨hbefore, hnone⟩
    · unfold contentTrouble?
      rw [hafter, hbefore]
      dsimp only
      rw [htruthy, hentries]
      -- An empty section is not looked at, and there is nothing in it to find fault with.
      cases hcontent : before ++ after <;> rfl
    · unfold contentTrouble?
      rw [hafter, hbefore]
      dsimp only
      rw [htruthy, hentries, hnone]
      rfl
  · unfold contentTrouble?
    rw [hadds.elsewhere q.name (name_ne hq)]

/-- The other sections are read as before. -/
theorem Adds.read_eq {q : Part} (hq : q ≠ p) : q.read y' = q.read y := by
  unfold read entries
  rw [hadds.elsewhere q.name (name_ne hq)]

end Adds

/-- Under a name that a section starts with nothing changes. -/
theorem Adds.get?_read_eq {name : Text} {v : Value} (hadds : p.Adds (.text name, v) y y')
    (hunknown : p.initial.knows name = false) (hown : name ∉ Section.ownNames) {other : Text}
    (hother : p.initial.knows other = true) :
    (p.read y').get? other = (p.read y).get? other := by
  have hne : name ≠ other := by
    rintro rfl
    rw [hunknown] at hother
    cases hother
  have htable : other ≠ Section.tableName := by
    rintro rfl
    cases p <;> cases hother
  obtain ⟨before, after, hafter, hbefore⟩ := hadds.entries_eq
  -- What a section holds by itself is noted entry by entry, and the new one says nothing of `other`.
  have hread : (p.read y').own.get? other = (p.read y).own.get? other := by
    rw [read, read, Section.own_foldl_entered _ _ htable, Section.own_foldl_entered _ _ htable,
      hafter, hbefore, List.foldl_append, List.foldl_append, List.foldl_cons,
      Section.noted_of_ne hown hne]
  rw [Section.get?, Section.get?, hread, read, read, Section.common_foldl_entered,
    Section.common_foldl_entered]

/-- An entry with an unknown name leaves all settings as they are. -/
theorem Adds.agree {name : Text} {v : Value} {id id' : Option Nat} {es es' : List (Datum × Datum)}
    (hadds : p.Adds (.text name, v) (Datum.map id es).value (Datum.map id' es').value)
    (hunknown : p.initial.knows name = false) (hown : name ∉ Section.ownNames) (directory : Path) :
    (ofDocument directory (.map id es)).Agree (ofDocument directory (.map id' es')) := by
  have hvars : VariablesSettings.ofSection (vars.read (Datum.map id' es').value) =
      VariablesSettings.ofSection (vars.read (Datum.map id es).value) := by
    by_cases hp : vars = p
    · subst hp
      exact VariablesSettings.ofSection_congr fun _ => hadds.get?_read_eq hunknown hown
    · rw [hadds.read_eq hp]
  have hfilter : FilterSettings.ofSection (filter.read (Datum.map id' es').value) =
      FilterSettings.ofSection (filter.read (Datum.map id es).value) := by
    by_cases hp : filter = p
    · subst hp
      exact FilterSettings.ofSection_congr fun _ => hadds.get?_read_eq hunknown hown
    · rw [hadds.read_eq hp]
  have hlog : LogSettings.ofSection (log.read (Datum.map id' es').value) =
      LogSettings.ofSection (log.read (Datum.map id es).value) := by
    by_cases hp : log = p
    · subst hp
      exact LogSettings.ofSection_congr fun _ => hadds.get?_read_eq hunknown hown
    · rw [hadds.read_eq hp]
  -- the settings outside of the sections are not those of a section
  have houtside : ∀ (name : Text) (usual : Value), name ≠ p.name →
      (((Datum.map id' es').field? name).getD (.plain usual)).value =
        (((Datum.map id es).field? name).getD (.plain usual)).value := by
    intro name usual hname
    rw [Datum.value_getD_field?, Datum.value_getD_field?, hadds.elsewhere name hname]
  refine ⟨fun st => ?_, hvars, hfilter, hlog, rfl⟩
  cases st with
  | appName => exact houtside "app_name" _ (by cases p <;> decide)
  | version => exact houtside "version" _ (by cases p <;> decide)
  | debug => exact houtside "debug" _ (by cases p <;> decide)
  | logDirectory => exact houtside "log_dir" _ (by cases p <;> decide)
  | enabled => exact congrArg VariablesSettings.enabled hvars
  | accounts => exact congrArg VariablesSettings.accounts hvars
  | scriptPath => exact congrArg FilterSettings.scriptPath hfilter
  | defaultFolder => exact congrArg FilterSettings.defaultFolder hfilter
  | level => exact congrArg LogSettings.level hlog
  | jsonFormat => exact congrArg LogSettings.jsonFormat hlog
  | consoleOutput => exact congrArg LogSettings.consoleOutput hlog

/-- An entry that is passed over changes no outcome. -/
theorem sameOutcome_of_passesOver (h : p.passesOver key = true) {v : Value} {id id' : Option Nat}
    {es es' : List (Datum × Datum)}
    (hadds : p.Adds (key, v) (Datum.map id es).value (Datum.map id' es').value) (directory : Path)
    (e : Environment) (overridden : Bool) :
    SameOutcome (settle directory e overridden (.map id es))
      (settle directory e overridden (.map id' es')) := by
  obtain ⟨name, rfl, hunknown, hown⟩ := passesOver_eq_true_iff.mp h
  have hfault := Section.entryFault?_of_not_mem hown v
  have hcontent : parts.findSome? (·.contentTrouble? (Datum.map id' es').value) =
      parts.findSome? (·.contentTrouble? (Datum.map id es).value) := by
    rw [findSome?_parts, findSome?_parts, hadds.contentTrouble?_eq hfault,
      hadds.contentTrouble?_eq hfault, hadds.contentTrouble?_eq hfault]
  exact sameOutcome_of_agree hcontent (hadds.agree hunknown hown directory) e overridden

/-! ## All other entries -/

/-- What a section starts with are its settings and what else has a name in it. -/
theorem knows_initial {name : Text} (h : p.initial.knows name = true) :
    (∃ st : Setting, st.part? = some p ∧ name = st.name) ∨ name ∈ p.initial.operations := by
  rw [Section.knows_eq, Section.alwaysKnows, ← Bool.or_assoc, Bool.or_eq_true, Bool.or_eq_true,
    List.contains_iff_mem] at h
  refine h.imp_left fun hvalue => ?_
  have hname : name ∈ Assoc.keys p.initial.own ++ Assoc.keys p.initial.common :=
    List.mem_append.mpr (hvalue.imp Assoc.mem_keys_of_isSome Assoc.mem_keys_of_isSome)
  cases p with
  | vars =>
    have hname : name ∈ [("enabled" : Text), "accounts", "enabled"] := hname
    simp only [List.mem_cons, List.not_mem_nil, or_false] at hname
    rcases hname with rfl | rfl | rfl
    exacts [⟨.enabled, rfl, rfl⟩, ⟨.accounts, rfl, rfl⟩, ⟨.enabled, rfl, rfl⟩]
  | filter =>
    have hname : name ∈ [("script_path" : Text), "default_folder", "script_path", "default_folder"] :=
      hname
    simp only [List.mem_cons, List.not_mem_nil, or_false] at hname
    rcases hname with rfl | rfl | rfl | rfl
    exacts [⟨.scriptPath, rfl, rfl⟩, ⟨.defaultFolder, rfl, rfl⟩, ⟨.scriptPath, rfl, rfl⟩,
      ⟨.defaultFolder, rfl, rfl⟩]
  | log =>
    have hname : name ∈ [("level" : Text), "json_format", "console_output", "level", "json_format",
      "console_output"] := hname
    simp only [List.mem_cons, List.not_mem_nil, or_false] at hname
    rcases hname with rfl | rfl | rfl | rfl | rfl | rfl
    exacts [⟨.level, rfl, rfl⟩, ⟨.jsonFormat, rfl, rfl⟩, ⟨.consoleOutput, rfl, rfl⟩,
      ⟨.level, rfl, rfl⟩, ⟨.jsonFormat, rfl, rfl⟩, ⟨.consoleOutput, rfl, rfl⟩]

/-- A document that gives nothing but one entry of a section, without a value. -/
def single (p : Part) (key : Value) : Datum :=
  .map none [(.plain (.text p.name), .map none [(.ofValue key, .plain .null)])]

/-- The value of such a document. -/
theorem value_single (p : Part) (key : Value) :
    (p.single key).value = .map [(.text p.name, .map [(key, .null)])] := by
  show Value.map [(.text p.name, .map [((Datum.ofValue key).value, .null)])] = _
  rw [Datum.value_ofValue]

/-- It adds one entry to the empty document. -/
theorem adds_single (p : Part) (key : Value) :
    p.Adds (key, .null) (Datum.map none []).value (p.single key).value where
  elsewhere name hname := by
    rw [value_single]
    show (if decide (p.name = name) = true then _ else none) = none
    rw [if_neg fun h => hname (of_decide_eq_true h).symm]
  inside := by
    refine ⟨[], [], ?_, .inr ⟨rfl, rfl⟩⟩
    rw [value_single]
    show (if decide (p.name = p.name) = true then _ else none) = _
    rw [if_pos (decide_eq_true rfl)]
    rfl

/-- There is no table in such a document. -/
theorem sharesNoTable_single (p : Part) (key : Value) : sharesNoTable (p.single key) = true := by
  unfold sharesNoTable parts single
  cases p <;> simp +decide [Datum.field?, Value.isText, Datum.value, name]

/-- An entry in the place of an operation, or of the list of the settings, is seen in the settings. -/
theorem not_agree_single {name : Text} (h : name ∈ p.initial.operations) (directory : Path) :
    ¬(ofDocument directory (.map none [])).Agree (ofDocument directory (p.single (.text name))) := by
  intro hagree
  -- the section whose operation is in the way can be told from the section as it starts
  cases p with
  | vars =>
    have hvars : VariablesSettings.ofSection (vars.read (vars.single (.text name)).value) =
        VariablesSettings.ofSection (vars.read (.map [])) := hagree.vars
    have hname : name ∈ [Section.checkName, Section.switchName, Section.listName] := h
    simp only [List.mem_cons, List.not_mem_nil, or_false] at hname
    rcases hname with rfl | rfl | rfl
    · exact Option.some_ne_none Fault.wrongKind (congrArg VariablesSettings.checkBar hvars)
    · exact Option.some_ne_none Fault.wrongKind (congrArg VariablesSettings.switchBar hvars)
    · exact Option.some_ne_none Value.null (congrArg VariablesSettings.listing hvars)
  | filter =>
    have hfilter : FilterSettings.ofSection (filter.read (filter.single (.text name)).value) =
        FilterSettings.ofSection (filter.read (.map [])) := hagree.filter
    have hname : name ∈ [Section.checkName, Section.listName] := h
    simp only [List.mem_cons, List.not_mem_nil, or_false] at hname
    rcases hname with rfl | rfl
    · exact Option.some_ne_none Fault.wrongKind (congrArg FilterSettings.checkBar hfilter)
    · exact Option.some_ne_none Value.null (congrArg FilterSettings.listing hfilter)
  | log =>
    have hlog : LogSettings.ofSection (log.read (log.single (.text name)).value) =
        LogSettings.ofSection (log.read (.map [])) := hagree.log
    have hname : name ∈ [Section.checkName, Section.listName] := h
    simp only [List.mem_cons, List.not_mem_nil, or_false] at hname
    rcases hname with rfl | rfl
    · exact Option.some_ne_none Fault.wrongKind (congrArg LogSettings.checkBar hlog)
    · exact Option.some_ne_none Value.null (congrArg LogSettings.listing hlog)

/-- An entry that is not passed over changes the outcome where nothing else is given. -/
theorem not_sameOutcome_single (hkey : ∀ st : Setting, st.part? = some p → key ≠ .text st.name)
    (h : p.passesOver key = false) (directory : Path) (e : Environment) :
    ¬SameOutcome (settle directory e false (.map none []))
      (settle directory e false (p.single key)) := by
  intro hsame
  have hnil : settle directory e false (.map none []) = .ok (ofDocument directory (.map none [])) := by
    rw [settle_mapping]
    show unlessBarred (trouble? directory (.map [])) _ = _
    rw [trouble?_nil]
    rfl
  have hsingle : settle directory e false (p.single key) =
      unlessBarred (trouble? directory (p.single key).value)
        (.ok (ofDocument directory (p.single key))) := settle_mapping directory e none _
  rw [hnil, hsingle] at hsame
  -- Without trouble the key is a text that the section has, but none of the names of its settings.
  cases htrouble : trouble? directory (p.single key).value with
  | some cause =>
    rw [htrouble] at hsame
    cases hsame
  | none =>
    rw [htrouble] at hsame
    obtain - | hagree := hsame
    rw [value_single] at htrouble
    have hcontent := (trouble?_eq_none_iff.mp htrouble p).1
    have hfault : Section.entryFault? (key, .null) = none := by
      simpa [contentTrouble?, Value.field?, Value.lookupText?, Value.isText, Value.isTruthy]
        using hcontent
    obtain ⟨name, rfl, hown⟩ := Section.not_mem_of_entryFault? hfault
    have hknown : p.initial.knows name = true := by simpa [passesOver, hown] using h
    rcases knows_initial hknown with ⟨st, hst, rfl⟩ | hoperation
    · exact hkey st hst rfl
    · exact not_agree_single hoperation directory hagree

/-! ## Which entries make no difference -/

/-- Settings are read by settling the document in the file, whatever format this has. An entry with a
key that names no setting of its section makes no difference there, whatever its value is, the document
holds besides, and the environment says, exactly if its key is a text and neither names the check of
the section, the question whether variables are enabled or the list of settings, nor stands for the
section itself. The documents are those in which no section shares its table. -/
theorem passesOver_iff (hkey : ∀ st : Setting, st.part? = some p → key ≠ .text st.name) :
    (p.passesOver key = true ↔
      ∀ (v : Value) (id id' : Option Nat) (es es' : List (Datum × Datum)),
        p.Adds (key, v) (Datum.map id es).value (Datum.map id' es').value →
        sharesNoTable (.map id es) = true → sharesNoTable (.map id' es') = true →
        ∀ (directory : Path) (e : Environment) (overridden : Bool),
          SameOutcome (settle directory e overridden (.map id es))
            (settle directory e overridden (.map id' es'))) ∧
      ∀ (files : FileTree) (e : Environment) (file : Option Text) (overridden : Bool)
        (format : DocumentFormat) (directory : Path), e.settingsDirectory = .ok directory →
        load files e file overridden format =
          documentIn files directory file format >>= settle directory e overridden := by
  refine ⟨⟨fun h v id id' es es' hadds _ _ => sameOutcome_of_passesOver h hadds, fun h => ?_⟩,
    fun files e file overridden format directory hdirectory =>
      load_eq hdirectory files file overridden format⟩
  refine Bool.of_not_eq_false fun hseen => ?_
  have hsame := h .null none none [] _ (p.adds_single key) rfl (p.sharesNoTable_single key)
    (Path.ofText []) [] false
  exact not_sameOutcome_single hkey hseen _ _ hsame

/-- An entry that nothing in the section is named after. -/
theorem passesOver_iff_colour :
    (∀ st : Setting, st.part? = some .filter → Value.text "colour" ≠ .text st.name) ∧
      filter.passesOver (.text "colour") = true ∧
      SameOutcome (settle (Path.ofText "cfg") [("SIEVE_VARS_LOGGING_LEVEL", "debug")] true (.map none []))
        (settle (Path.ofText "cfg") [("SIEVE_VARS_LOGGING_LEVEL", "debug")] true
          (filter.single (.text "colour"))) := by
  have hkey : ∀ st : Setting, st.part? = some .filter → Value.text "colour" ≠ .text st.name := by
    intro st _
    cases st <;> exact fun hname => absurd (Value.text.inj hname) (by decide)
  have hover : filter.passesOver (.text "colour") = true := rfl
  have hsame := (passesOver_iff hkey).1.mp hover .null none none [] _ (filter.adds_single _) rfl
    (filter.sharesNoTable_single _)
  exact ⟨hkey, hover, hsame _ _ _⟩

end Part

/-- A key that is a number ends the reading of a file that is accepted without it, and an entry can take
the place of the question whether variables are enabled. -/
theorem unknown_entries_seen :
    (∃ s, load (filesWith "filter: \x7b\x7d\n") directoryVariable none false = .ok s) ∧
      load (filesWith "filter:\n  1: x\n") directoryVariable none false =
        .error (.fault .wrongKind) ∧
      ∃ s, load (filesWith "variables:\n  enabled_for: x\n") directoryVariable none false = .ok s ∧
        s.vars.enabledFor none = .error .wrongKind := by
  have hloads : (load (filesWith "filter: \x7b\x7d\n") directoryVariable none
      false).toOption.map (fun _ => true) = some true := by decide +kernel
  have hasks : (load (filesWith "variables:\n  enabled_for: x\n") directoryVariable none
      false).toOption.map (·.vars.enabledFor none) = some (.error .wrongKind) := by decide +kernel
  obtain ⟨s, hload, -⟩ := exists_of_map_toOption hloads
  exact ⟨⟨s, hload⟩, by decide +kernel, exists_of_map_toOption hasks⟩

end Settings

end MailFilter
