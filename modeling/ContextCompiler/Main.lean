import ContextCompiler.Cli.Command
import ContextCompiler.Cli.Run
import Std.Time.DateTime.Timestamp

/-!
The program.

The directories that a command is about are read before it runs, and what it changed is written
after it ran. There is no web and no git, and the local time is the time at the meridian.
-/

namespace ContextCompiler.Program

/-- The bytes of a file, if it can be read. -/
def bytes? (path : String) : IO (Option (List UInt8)) := do
  try
    let bytes ← IO.FS.readBinFile path
    return some bytes.toList
  catch _ => return none

/-- The text of a file, if it can be read. -/
def text? (path : String) : IO (Option String) := do
  let bytes ← bytes? path
  return (bytes.bind Text.ofUtf8?).map String.ofList

/-- The variables of the environment. -/
def environment : IO Scope := do
  let text ← text? "/proc/self/environ"
  let pairs := (Text.split '\x00' (text.getD "")).filterMap fun entry =>
    (Text.splitFirst ['='] entry.toList).map fun (key, value) =>
      (String.ofList key, String.ofList value)
  return SortedMap.ofList pairs

/-- The machine that the program runs on. -/
def machine : IO Machine := do
  let now ← Std.Time.Timestamp.now
  let processor ← text? "/proc/sys/kernel/arch"
  let processors ← text? "/proc/cpuinfo"
  let hostFile ← text? "/etc/hostname"
  let count := (Text.split '\n' (processors.getD "")).countP fun line =>
    Text.hasPrefix "processor" line
  return {
    now := ⟨now.toSecondsSinceUnixEpoch.toInt.toNat, 0⟩
    system := "linux"
    processor := Text.trim (processor.getD "x86_64")
    processors := Nat.max count 1
    hostFile := hostFile }

/-- The place of a path without links. -/
def placeOf (path : String) : Place := (Text.split '/' path).filter (· != "")

/-- Adds what is below a directory, which is given by a path without links. -/
partial def addBelow (s : Storage) (directory : String) : IO Storage := do
  let (s, _) := s.makeAllDirectories directory
  let entries ← (← IO.FS.realPath directory).readDir
  entries.foldlM (fun s entry => do
    let path := Path.join directory entry.fileName
    let place := placeOf path
    if (s.get? place).isSome then return s
    try
      match (← entry.path.symlinkMetadata).type with
      | .dir => addBelow s path
      | .file => return s.put place (.file ((← bytes? path).getD []))
      | .symlink => return s.put place (.link (← IO.FS.realPath path).toString)
      | .other => return s
    catch _ => return s) s

/-- Adds a directory if it is there. -/
def addDirectory (s : Storage) (path : String) : IO Storage := do
  try
    let real := (← IO.FS.realPath path).toString
    if (s.get? (placeOf real)).isSome then return s else addBelow s real
  catch _ => return s

/-- The directories that a command is about. -/
def directoriesOf (env : Scope) (c : Cli.Command) : List String :=
  let about (config : Cli.ConfigChoice) (output : Option String) : List String :=
    let workDir := config.workDir.getD "."
    let files := config.configFile.toList ++ config.envFile.toList
    "." :: workDir :: files.filterMap (fun f => Path.parent? (Path.join workDir f))
      ++ output.toList.map (Path.join workDir)
  let settings := (homeOf env).toList.map Settings.directory
  settings ++
    match c with
    | .generate config _ output _ => about config output
    | .prompts config _ | .prompt _ _ config _ | .tools config _ => about config none
    | .initSettings | .showSettings => []

/-- Writes what has changed. -/
def writeChanges (old new : Storage) : IO Unit :=
  new.entries.forM fun (place, entry) =>
    if old.get? place == some entry then pure ()
    else
      match entry with
      | .directory => IO.FS.createDirAll place.path
      | .file bytes => IO.FS.writeBinFile place.path ⟨bytes.toArray⟩
      | .link _ => pure ()

/-- Runs a command, and gives the exit code of the program. -/
def runCommand (c : Cli.Command) : IO UInt32 := do
  let env ← environment
  let machine ← machine
  let start : Storage := ⟨[], placeOf (← IO.currentDir).toString⟩
  let storage ← (directoriesOf env c).foldlM addDirectory start
  let world : RunWorld := ⟨⟨storage, ⟨.empty, false⟩, none, usualGithubApi⟩, env, machine⟩
  let outcome := Cli.run world c
  writeChanges storage outcome.storage
  IO.print outcome.output
  match outcome.failure with
  | none => return 0
  | some reason =>
    IO.eprintln ("Error: " ++ reason)
    return 1

end ContextCompiler.Program

/-- Does what the command line says. -/
def main (args : List String) : IO UInt32 := do
  match ContextCompiler.Cli.Command.read args with
  | .ok c => ContextCompiler.Program.runCommand c
  | .error e =>
    if e.isRequest then
      IO.println e.text
      return 0
    else
      IO.eprintln e.text
      return 2
