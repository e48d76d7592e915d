import MailFilter.Settings.Reading

/-!
# Writing settings

- `Settings.document`: the settings as a mapping. The sections are copied, so that they share nothing.
- `Settings.save`: writes them into a file.
-/

namespace MailFilter

namespace Value

mutual

/-- Whether a value contains itself somewhere. -/
def isEndless : Value → Bool
  | .cycle _ => true
  | .list items => areEndless items
  | .pair first second => first.isEndless || second.isEndless
  | .map entries => entriesEndless entries
  | .set members => areEndless members
  | _ => false

/-- Whether an item of a collection is endless. -/
def areEndless : List Value → Bool
  | [] => false
  | v :: rest => v.isEndless || areEndless rest

/-- Whether an entry of a collection is endless. -/
def entriesEndless : List (Value × Value) → Bool
  | [] => false
  | (k, v) :: rest => k.isEndless || v.isEndless || entriesEndless rest

end

end Value

namespace Settings

/-- A section as a mapping. -/
def sectionEntry (name : Text) (settings : List (Text × Value)) : Datum × Datum :=
  (.plain (.text name),
    .map none (settings.map fun (name, v) => (.plain (.text name), Datum.ofValue v)))

/-- The settings of a section that are written: none if something else has taken the place of their
list. -/
def listed (listing : Option Value) (settings : List (Text × Value)) : List (Text × Value) :=
  if listing.isSome then [] else settings

/-- The settings of the sections that are written, by name. -/
def sections (s : Settings) : List (Text × List (Text × Value)) :=
  [("variables", listed s.vars.listing
      [("enabled", s.vars.enabled), ("accounts", s.vars.accounts)]),
    ("filter", listed s.filter.listing
      [("script_path", s.filter.scriptPath), ("default_folder", s.filter.defaultFolder)]),
    ("logging", listed s.log.listing
      [("level", s.log.level), ("json_format", s.log.jsonFormat),
        ("console_output", s.log.consoleOutput)])]

/-- Why the settings of a section cannot be gone through: what stands in the place of their list is
neither a list of settings nor an empty mapping. -/
def listingFault? : Option Value → Option Fault
  | none | some (.map []) => none
  | some _ => some .noOperation

/-- A section that is copied. Endless values cannot be. -/
def copied (listing : Option Value) (name : Text) (settings : List (Text × Value)) :
    Except Fault (Datum × Datum) :=
  unlessBarred (listingFault? listing) <|
  if settings.any fun (_, v) => v.isEndless then .error .tooDeep
  else .ok (sectionEntry name settings)

/-- The settings as a mapping. -/
def document (s : Settings) : Except Fault (List (Datum × Datum)) := do
  let entry (name : Text) (d : Datum) : Datum × Datum := (.plain (.text name), d)
  let listings := [s.vars.listing, s.filter.listing, s.log.listing]
  let sections ← (listings.zip s.sections).mapM fun (listing, name, settings) =>
    copied listing name settings
  return [entry "app_name" s.appName, entry "version" s.version, entry "debug" s.debug] ++ sections

/-- The text of a settings file. -/
def text (s : Settings) (format : DocumentFormat := .yaml) : Except Failure Text := do
  let entries ← s.document.mapError .fault
  (format.write entries).mapError .fault

/-- Writes the settings into a file, whose directory is made if it is not there. -/
def save (files : FileTree) (s : Settings) (file : Option Text)
    (format : DocumentFormat := .yaml) : Except Failure FileTree := do
  let path := filePath (Path.ofText s.directory) file
  let files ← files.makeDirectories path.parent
  let files ← writing path (files.write path [])
  writing path (files.write path ((Utf8.encode? (← s.text format)).getD []))
where
  /-- A file that cannot be written is a fault of the settings. -/
  writing (path : Path) : Except Failure FileTree → Except Failure FileTree
    | .error (.file e) => Failure.refuseSettings (.unwritable e path.text)
    | r => r

end Settings

end MailFilter
