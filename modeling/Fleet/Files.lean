import Fleet.Text.Raw

/-!
# Files

The files of a run are a finite tree below its working directory. A path is a raw text; it is walked
component by component from the root or from the working directory, and every directory it passes
must be there. The operations are those a run needs: whether a path leads anywhere, the text of a
file, and opening a log file, which makes the directories above it.
-/
namespace Fleet

inductive Node where
  | file (bytes : List UInt8)
  | directory
  deriving DecidableEq

inductive FileFault where
  | notFound
  | exists
  | notDirectory
  | isDirectory
  | nameTooLong
  | notText
  | zeroInPath
  deriving DecidableEq, Repr

def FileFault.message : FileFault → String
  | notFound => "No such file or directory (os error 2)"
  | «exists» => "File exists (os error 17)"
  | notDirectory => "Not a directory (os error 20)"
  | isDirectory => "Is a directory (os error 21)"
  | nameTooLong => "File name too long (os error 36)"
  | notText => "stream did not contain valid UTF-8"
  | zeroInPath => "file name contained an unexpected NUL byte"

abbrev Path := RawText

namespace Path

def slash : UInt8 := 0x2F

def point : UInt8 := 0x2E

/-- The parts of a path between its slashes. -/
def partsOf (bytes : List UInt8) : List RawText :=
  match bytes with
  | [] => [⟨[]⟩]
  | byte :: rest =>
    match partsOf rest with
    | part :: more => if byte = slash then ⟨[]⟩ :: part :: more else ⟨byte :: part.bytes⟩ :: more
    | [] => [⟨[byte]⟩]

def parts (path : Path) : List RawText := partsOf path.bytes

/-- The path of these parts, with a slash between any two. -/
def ofParts (parts : List RawText) : Path := ⟨[slash].intercalate (parts.map RawText.bytes)⟩

def isAbsolute (path : Path) : Bool := path.bytes.head? == some slash

/-- `path` seen from the directory `base`. -/
def join (base path : Path) : Path :=
  if isAbsolute path || base.isEmpty then path
  else if base.bytes.getLast? == some slash then base ++ path
  else base ++ "/" ++ path

/-- The part says nothing: it is empty or a point. -/
def isIdle (part : RawText) : Bool := part == "" || part == "."

/-- The parts of a path that say something; a leading point of a relative path is one of them. -/
def components (path : Path) : List RawText :=
  match parts path with
  | [] => []
  | first :: rest =>
    let telling := rest.filter fun part => !isIdle part
    if first == "" then telling else first :: telling

/-- Whether two paths are the same but for needless slashes and points. -/
def same (a b : Path) : Bool := isAbsolute a == isAbsolute b && components a == components b

/-- The path up to its last name, if it ends in one. -/
def named? (path : Path) : Option Path :=
  match (parts path).reverse.dropWhile isIdle with
  | [] => none
  | name :: before => if name == ".." then none else some (ofParts (name :: before).reverse)

def withEnding? (path : Path) (ending : String) : Option Path :=
  (named? path).map fun path => path ++ "." ++ ending

/-- The ending of the last name of a path, after its last point. -/
def ending? (path : Path) : Option RawText := do
  let name ← (components path).getLast?
  let tail := name.bytes.reverse.takeWhile (· != point)
  guard (tail.length + 1 < name.size)
  return ⟨tail.reverse⟩

end Path

/-- `place` is the working directory. Directories above it are there, and nothing beside them. -/
structure Files where
  place : List RawText
  nodes : List (List RawText × Node)

namespace Files

def node? (files : Files) (place : List RawText) : Option Node :=
  if place.isPrefixOf files.place then some .directory
  else (files.nodes.find? fun entry => entry.1 == place).map Prod.snd

def put (files : Files) (place : List RawText) (node : Node) : Files :=
  { files with nodes := (place, node) :: files.nodes.filter fun entry => entry.1 != place }

/-- Walks the parts of a path from a place. The last place need not be there. -/
def walk (files : Files) (place : List RawText) : List RawText → Except FileFault (List RawText)
  | [] => .ok place
  | part :: rest =>
    match files.node? place with
    | none => .error .notFound
    | some (.file _) => .error .notDirectory
    | some .directory =>
      if part.size > 255 then .error .nameTooLong
      else if Path.isIdle part then files.walk place rest
      else if part == ".." then files.walk place.dropLast rest
      else files.walk (place ++ [part]) rest

def locate (files : Files) (path : Path) : Except FileFault (List RawText) :=
  if path.bytes.contains 0 then .error .zeroInPath
  else if path.isEmpty then .error .notFound
  else if path.size ≥ 4096 then .error .nameTooLong
  else files.walk (if Path.isAbsolute path then [] else files.place) (Path.parts path)

def find? (files : Files) (path : Path) : Option Node :=
  match files.locate path with
  | .ok place => files.node? place
  | .error _ => none

def contains (files : Files) (path : Path) : Bool := (files.find? path).isSome

def isFile (files : Files) (path : Path) : Bool :=
  match files.find? path with
  | some (.file _) => true
  | _ => false

def read (files : Files) (path : Path) : Except FileFault (List UInt8) := do
  match files.node? (← files.locate path) with
  | none => .error .notFound
  | some .directory => .error .isDirectory
  | some (.file bytes) => .ok bytes

def readText (files : Files) (path : Path) : Except FileFault String := do
  let bytes ← files.read path
  match String.fromUTF8? ⟨bytes.toArray⟩ with
  | some text => .ok text
  | none => .error .notText

/-- Makes the directories of a path that are missing. -/
def makeDirectories (files : Files) (place : List RawText) :
    List RawText → Except FileFault Files
  | [] => .ok files
  | part :: rest =>
    if Path.isIdle part then files.makeDirectories place rest
    else if part == ".." then files.makeDirectories place.dropLast rest
    else if part.size > 255 then .error .nameTooLong
    else
      match files.node? (place ++ [part]) with
      | some .directory => files.makeDirectories (place ++ [part]) rest
      | some (.file _) =>
        .error (if rest.all Path.isIdle then .exists else .notDirectory)
      | none => (files.put (place ++ [part]) .directory).makeDirectories (place ++ [part]) rest

/-- The parts of the path above its last name. -/
def parentParts (path : Path) : List RawText :=
  ((Path.parts path).filter fun part => !Path.isIdle part).dropLast

def makeParents (files : Files) (path : Path) : Except FileFault Files :=
  if path.bytes.contains 0 then .error .zeroInPath
  else files.makeDirectories (if Path.isAbsolute path then [] else files.place) (parentParts path)

/-- Opens a file for appending, and makes it if it is missing. -/
def openForAppend (files : Files) (path : Path) : Except FileFault (Files × List RawText) := do
  let place ← files.locate path
  match files.node? place with
  | some .directory => .error .isDirectory
  | some (.file _) => .ok (files, place)
  | none => .ok (files.put place (.file []), place)

def append (files : Files) (place : List RawText) (bytes : List UInt8) : Files :=
  match files.node? place with
  | some (.file old) => files.put place (.file (old ++ bytes))
  | _ => files

end Files

end Fleet
