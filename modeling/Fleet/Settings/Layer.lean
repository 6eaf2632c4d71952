import Fleet.Environment
import Fleet.Settings.Format

/-!
# Layers of settings

A layer comes from a file or from the environment. A file whose name has no other regular file is
looked for with an ending added. In the environment a variable that begins with `MACHINE_CONFIG_`
sets the key that the rest of its name spells, in lower case and with a point for each double
underscore; all its values are texts. Of variables that spell the same key the last one holds, in
the order in which they are gone through.
-/
namespace Fleet

/-- What a run finds around it: the files, the home directory of its user, for an environment that
names none, the formats of settings files, and the order of whatever has none of its own. -/
structure Host where
  files : Files
  home : Path
  formats : Settings.Formats := .plain
  order : Settings.Order := .plain

namespace Settings

/-- A path as seen from the working directory. -/
def relative : List RawText → List RawText → List RawText
  | a :: path, b :: base =>
    if a = b then relative path base else (b :: base).map (fun _ => (".." : RawText)) ++ a :: path
  | path, base => base.map (fun _ => (".." : RawText)) ++ path

/-- The components of a path from the root. -/
def fullPath (files : Files) (path : Path) : List RawText :=
  if Path.isAbsolute path then Path.components path
  else files.place ++ (Path.components path).filter fun part : RawText => part != "."

def sourceName (files : Files) (path : Path) : String :=
  (Path.ofParts (relative (fullPath files path) files.place)).display

/-- The format that is registered for the ending of a path. -/
def formatOf? (formats : Formats) (path : Path) : Option Format :=
  formats.all.find? fun format =>
    format.endings.contains (((Path.ending? path).map RawText.display).getD "")

/-- The path with each registered ending, and the format that the ending is for. -/
def withEndings (formats : Formats) (path : Path) : List (Path × Format) :=
  formats.all.flatMap fun format => format.endings.flatMap fun ending =>
    (Path.withEnding? path ending).toList.map fun path => (path, format)

/-- The path of the file that a settings path stands for, and its format. -/
def findFile (host : Host) (path : Path) : Except SettingsFault (Path × Format) :=
  if host.files.isFile path then
    match formatOf? host.formats path with
    | some format => .ok (path, format)
    | none =>
      .error (.unknownFormat (Path.join ("/" ++ Path.ofParts host.files.place) path))
  else
    match (withEndings host.formats path).find? fun found => host.files.isFile found.1 with
    | some found => .ok found
    | none => .error (.notFound path)

def withoutMark : List UInt8 → List UInt8
  | 0xEF :: 0xBB :: 0xBF :: rest => rest
  | bytes => bytes

def fileLayer (host : Host) (path : Path) : Except SettingsFault Members := do
  let (found, format) ← findFile host path
  match host.files.read found with
  | .error _ => .error (.notFound path)
  | .ok bytes => format.parse (sourceName host.files found) (Text.lossy (withoutMark bytes))

def variableStart : String := "MACHINE_CONFIG_"

/-- Every double underscore becomes a point, from the left. -/
def splitUnderscores : List Char → List Char
  | '_' :: '_' :: rest => '.' :: splitUnderscores rest
  | c :: rest => c :: splitUnderscores rest
  | [] => []

/-- The key that a variable sets. -/
def variableKey (name : String) : String :=
  String.ofList (splitUnderscores ((Text.lower name).toList.drop variableStart.length))

def environmentLayer (order : Order) (env : Environment) : Members :=
  (Entries.arrange (order.ranks .variables []) (env.startingWith variableStart)).foldl
    (fun layer pair => Entries.put (variableKey pair.1)
      (.scalar (.string pair.2) (some "the environment")) layer) []

/-- The lowest layer. Logging has defaults of its own. -/
def defaults : Value := .table [
  ("boxes", .table [
    ("linux", .scalar (.string Machine.FallbackBoxes.standard.linux) none),
    ("windows", .scalar (.string Machine.FallbackBoxes.standard.windows) none)]),
  ("document", .scalar (.string standardDocument) none)]

/-- The layers, each in the order in which it is gone through. -/
def layersInOrder (order : Order) (index : Nat) : List Members → List Members
  | [] => []
  | layer :: rest =>
    Members.inOrder (order.ranks (.layer index)) layer :: layersInOrder order (index + 1) rest

/-- The value of all layers, lowest first, over the defaults. -/
def gather (order : Order) (layers : List Members) : Value :=
  let gathered := (layersInOrder order 0 layers).foldl Value.setAll (.table [])
  defaults.setAll (Members.inOrder (order.ranks .gathered) gathered.members)

def ofLayers (order : Order) (layers : List Members) : Except SettingsFault Settings :=
  (((gather order layers).inOrder (order.ranks .reading)).settings
    (order.ranks .modules [])).mapError .misfit

end Settings

end Fleet
