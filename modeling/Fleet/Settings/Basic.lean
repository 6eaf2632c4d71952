import Fleet.Files
import Fleet.Log.Config
import Fleet.Machine.Codec

/-!
# Settings

The settings of a run: where its configuration document is, the fallback boxes and logging. A
document path that is not absolute is seen from the workspace. Settings are written to JSON unless a
path in them is no text.
-/
namespace Fleet

structure Settings where
  document : Path
  boxes : Machine.FallbackBoxes
  logging : Log.Config

namespace Settings
variable {P : Type}

def standardDocument : String := "config.json"

def standard : Settings := ⟨standardDocument, .standard, .standard⟩

def isStandard (settings : Settings) : Bool :=
  Path.same settings.document standard.document && settings.boxes == standard.boxes &&
    settings.logging.agree standard.logging

def documentPath (settings : Settings) (workspace : Path) : Path :=
  Path.join workspace settings.document

def toJson (settings : Settings) : Except SerializationFault Json := do
  let document ← settings.document.toJson
  let logging ← settings.logging.toJson
  return .object [("document", document), ("boxes", settings.boxes.toJson), ("logging", logging)]

structure Draft where
  document : Option Path := none
  boxes : Option Machine.FallbackBoxes := none
  logging : Option Log.Config := none

def Draft.finish (draft : Draft) : Except String Settings :=
  match draft.document, draft.boxes with
  | none, _ => .error "document"
  | _, none => .error "boxes"
  | some document, some boxes => .ok ⟨document, boxes, draft.logging.getD .standard⟩

def shape : Tree.Shape P Draft Settings where
  name := "Settings"
  fields := [
    ⟨"document", false, (·.document.isSome),
      fun t => t.path.map fun v d => { d with document := some (.ofText v) }⟩,
    ⟨"boxes", false, (·.boxes.isSome),
      fun t => (Machine.FallbackBoxes.read t).map fun v d => { d with boxes := some v }⟩,
    ⟨"logging", true, (·.logging.isSome),
      fun t => (Log.Config.read t).map fun v d => { d with logging := some v }⟩]
  draft := {}
  finish := Draft.finish

def read (tree : Tree P) : Except (Fault P) Settings := shape.read tree

end Settings

end Fleet
