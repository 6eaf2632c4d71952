import Fleet.Command.Arguments
import Fleet.Command.Launch
import Std.Time.Format

/-!
# The command line

The outermost layer gathers what a launch may look at, starts it, and writes out what came of it.
It decides nothing. A launch is described by values, so its files are gathered before it starts and
its log file is written after it has ended. All records bear the time of the start. Tables are gone
through as they are, and no formats of settings are registered but TOML and JSON.
-/
namespace Fleet

def usage : String :=
  "Usage: machine-config [OPTIONS] <machines|folders|plan|settings>\n\n" ++
  "Options of the run:\n" ++
  "  --workspace <PATH>   --settings <PATH>   --document <PATH>   --verbose   --quiet\n" ++
  "  --log-level <LEVEL>  --log-format <json|text>\n" ++
  "  --log-output <stderr|stdout|file>  --log-file <PATH>\n\n" ++
  "Commands:\n" ++
  "  machines [--manifest <PATH>] [--format <text|json>]\n" ++
  "  folders <CATEGORY> [--env-var <NAME>] [--format <text|json>]\n" ++
  "  plan [--manifest <PATH>]\n" ++
  "  settings\n"

/-- What stands at a place. Whatever is there and cannot be read counts as a directory. -/
def observe (place : List RawText) : IO (Option Node) := do
  try
    let bytes ← IO.FS.readBinFile ("/" ++ (Path.ofParts place).display)
    return some (.file bytes.toList)
  catch
    | .noFileOrDirectory .. => return none
    | _ => return some .directory

/-- Adds what stands at each place that the parts of a path lead through. -/
def gatherParts (files : Files) (place : List RawText) : List RawText → IO Files
  | [] => return files
  | part :: rest =>
    if Path.isIdle part then gatherParts files place rest
    else if part == ".." then gatherParts files place.dropLast rest
    else do
      let place := place ++ [part]
      match ← observe place with
      | none => return files
      | some node => gatherParts (files.put place node) place rest

def gather (files : Files) (paths : List Path) : IO Files :=
  paths.foldlM (fun files path =>
    gatherParts files (if Path.isAbsolute path then [] else files.place) (Path.parts path)) files

/-- The paths that the settings of a launch may come from. -/
def settingsPaths (launch : Launch) (files : Files) : List Path :=
  let paths := match launch.invocation.settings with
    | some path => [path]
    | none =>
      [Settings.globalFile { files, home := launch.home } launch.env,
        Settings.workspaceFile launch.invocation.workspace]
  paths.flatMap fun path => path :: (Settings.withEndings launch.formats path).map Prod.fst

/-- The paths that a launch may open once its settings are known. -/
def workPaths (launch : Launch) (files : Files) : List Path :=
  let invocation := launch.invocation
  let session := Log.Session.start "" files
  let document := match invocation.loadSettings (launch.host session) launch.env with
    | .ok settings => [(invocation.overrideDocument settings).documentPath invocation.workspace]
    | .error _ => []
  let log := match invocation.logging launch.grammar (launch.earlyHost session) launch.env with
    | .ok config => config.file.toList
    | .error _ => []
  document ++ log ++ (invocation.command.manifest?.map (Path.join invocation.workspace)).toList

/-- Writes what the files after a launch have and the files before it had not. -/
def writeBack (before after : Files) : IO Unit := do
  for (place, node) in after.nodes.reverse do
    unless before.nodes.contains (place, node) do
      let path := "/" ++ (Path.ofParts place).display
      match node with
      | .directory => IO.FS.createDirAll path
      | .file bytes => IO.FS.writeBinFile path ⟨bytes.toArray⟩

/-- The environment of this process. A variable that is no text is left out. -/
def environment : IO Environment := do
  let bytes ← IO.FS.readBinFile "/proc/self/environ"
  let entries := (bytes.toList.splitOn 0).filterMap fun entry => (RawText.mk entry).text?
  return KeyMap.ofList <| (entries.filter (· ≠ "")).map fun entry =>
    let chars := entry.toList
    (String.ofList (chars.takeWhile (· != '=')), String.ofList ((chars.dropWhile (· != '=')).drop 1))

def clock : IO String := do
  let now := Std.Time.DateTime.ofTimestamp (← Std.Time.Timestamp.now) .UTC
  return now.format "uuuu-MM-dd'T'HH:mm:ss.SSSSSSxxx"

def Launch.perform (launch : Launch) : IO UInt32 := do
  let directory ← IO.currentDir
  let start : Files := ⟨(Path.parts directory.toString).filter fun part => !Path.isIdle part, []⟩
  let found ← gather start (settingsPaths launch start)
  let files ← gather found (workPaths launch found)
  let (session, code) := launch.start (← clock) files
  writeBack files session.files
  IO.print session.stdout
  IO.eprint session.stderr
  return code.toUInt32

end Fleet

open Fleet in
def main (arguments : List String) : IO UInt32 := do
  match Invocation.read (arguments.map RawText.ofText) with
  | .error .help =>
    IO.print usage
    return 0
  | .error fault =>
    IO.eprint s!"error: {fault.message}\n\n{usage}"
    return 2
  | .ok invocation =>
    let env ← environment
    Launch.perform { home := (env.get? "HOME").getD "/", env, invocation }
