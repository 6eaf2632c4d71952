import Fleet.HashMap
import Fleet.Json.Raw
import Fleet.Tree.Decode

/-!
# Logging configurations

What is logged and where to. Level, format and output are texts here: they are checked when logging
is set up and not before. `modules` maps record targets to levels of their own. A configuration is
written to JSON unless the path of its file is no text.
-/
namespace Fleet.Log

structure Config where
  enabled : Bool
  level : String
  format : String
  output : String
  file : Option RawText
  color : Bool
  modules : HashMap String

namespace Config
variable {P : Type}

def standard : Config where
  enabled := true
  level := "warn"
  format := "text"
  output := "stderr"
  file := none
  color := true
  modules := HashMap.empty

def agree (a b : Config) : Bool :=
  a.enabled == b.enabled && a.level == b.level && a.format == b.format && a.output == b.output &&
    a.file == b.file && a.color == b.color &&
    a.modules.toKeyMap.toList == b.modules.toKeyMap.toList

def fileJson : Option RawText → Except SerializationFault Json
  | none => .ok .null
  | some path => path.toJson

def toJson (config : Config) : Except SerializationFault Json := do
  let file ← fileJson config.file
  return .object [
    ("enabled", .bool config.enabled),
    ("level", .string config.level),
    ("format", .string config.format),
    ("output", .string config.output),
    ("file", file),
    ("color", .bool config.color),
    ("modules", .object (config.modules.toList.map fun pair => (pair.1, .string pair.2)))]

structure Draft where
  enabled : Option Bool := none
  level : Option String := none
  format : Option String := none
  output : Option String := none
  file : Option (Option RawText) := none
  color : Option Bool := none
  modules : Option (HashMap String) := none

def Draft.finish (draft : Draft) : Config where
  enabled := draft.enabled.getD standard.enabled
  level := draft.level.getD standard.level
  format := draft.format.getD standard.format
  output := draft.output.getD standard.output
  file := draft.file.join
  color := draft.color.getD standard.color
  modules := draft.modules.getD standard.modules

def shape : Tree.Shape P Draft Config where
  name := "LoggingConfig"
  fields := [
    ⟨"enabled", true, (·.enabled.isSome), fun t => t.flag.map fun v d => { d with enabled := some v }⟩,
    ⟨"level", true, (·.level.isSome), fun t => t.text.map fun v d => { d with level := some v }⟩,
    ⟨"format", true, (·.format.isSome), fun t => t.text.map fun v d => { d with format := some v }⟩,
    ⟨"output", true, (·.output.isSome), fun t => t.text.map fun v d => { d with output := some v }⟩,
    ⟨"file", true, (·.file.isSome),
      fun t => (t.optional Tree.path).map fun v d => { d with file := some (v.map .ofText) }⟩,
    ⟨"color", true, (·.color.isSome), fun t => t.flag.map fun v d => { d with color := some v }⟩,
    ⟨"modules", true, (·.modules.isSome),
      fun t => (t.entriesOf Tree.text).map fun v d =>
        { d with modules := some (.ofKeyMap (fun _ => 0) (.ofList v)) }⟩]
  draft := {}
  finish draft := .ok draft.finish

def read (tree : Tree P) : Except (Fault P) Config := shape.read tree

/-- Reads a configuration from a JSON value, whose members are taken in order of their keys. -/
def ofJson (value : Json) : Except Cause Config :=
  (read (Tree.ofJson (fun total _ => .wrongLength total "fewer elements in array") value)).mapError
    Fault.cause

end Config

end Fleet.Log
