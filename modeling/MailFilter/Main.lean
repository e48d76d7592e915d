import MailFilter.CommandLine.Program

/-!
# The command

The command takes a picture of the files and variables that the program may look at, runs the
program on it, prints what it answers and ends as it says.

- `Picture.take`: the picture.
- `main`: the command.
-/

namespace MailFilter

namespace Picture

/-- The variables of the environment that the program may look at. -/
def variableNames : List String :=
  ["HOME", "XDG_CONFIG_HOME", "SIEVE_VARS_CONFIG_DIR"] ++
    [Environment.variablesOverrides, Environment.filterOverrides,
      Environment.logOverrides].flatten.filterMap fun o => o.source.toString?

/-- The environment. -/
def environment : IO Environment :=
  variableNames.foldlM (fun e name => do
    match ← IO.getEnv name with
    | some value => return Assoc.put (name : Text) (value : Text) e
    | none => return e) []

/-- Adds a file to a picture. What can be read is a file, and what is there but cannot be read is a
directory. -/
def add (files : FileTree) (name : Text) : IO FileTree := do
  let path := Path.ofText name
  match path.text.toString? with
  | none => return files
  | some file =>
    let place (make : FileTree → Except Failure FileTree) : FileTree :=
      ((files.makeDirectories path.parent).bind make).toOption.getD files
    try
      let content ← IO.FS.readBinFile file
      return place fun files => files.write path content.toList
    catch
      | .noFileOrDirectory .. => return files
      | _ => return place fun files => files.makeDirectories path

/-- The files that the options and the settings name. -/
def take (o : Options) : IO Program.World := do
  let environment ← environment
  let settingsFile : Text :=
    match environment.settingsDirectory with
    | .ok directory => (Settings.filePath directory o.config).text
    | .error _ => []
  let files ← add FileTree.empty settingsFile
  let files ← (o.script.toList ++ o.check.toList ++ o.message.toList).foldlM add files
  let files ←
    match Settings.load files environment o.config true with
    | .ok s =>
      match s.filter.scriptPath with
      | .text t => add files t
      | _ => pure files
    | .error _ => pure files
  return ⟨files, environment⟩

end Picture

/-- Prints what the program answers, and ends as it says. -/
def Program.Reply.give (r : Program.Reply) : IO UInt32 := do
  let text := Utf8.encodeKeeping? r.printed |>.getD []
  (← IO.getStdout).write ⟨text.toArray⟩
  match r.ending with
  | .done code => return code.toUInt32
  | .refused .help => return 0
  | .refused .misuse =>
    for line in Help.usage do IO.eprintln line
    return 2
  | .failed _ =>
    IO.eprintln "The program met a value that it cannot work with."
    return 1

end MailFilter

open MailFilter in
/-- The command. -/
def main (arguments : List String) : IO UInt32 := do
  let words := arguments.map Text.ofString
  let world ← Picture.take ((Options.ofWords words).toOption.getD {})
  (Program.run world words).give
