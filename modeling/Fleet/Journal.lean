import Fleet.Document.Load
import Fleet.Guest
import Fleet.Log.Record
import Fleet.Settings.Load

/-!
# Journals

A journal lists the records that an activity of a run gives rise to, in order. It depends on the
same data as the activity, and nothing depends on it: what a run answers does not come from here.
An activity that fails stops its journal at the same place.
-/
namespace Fleet.Journal
open Log

def settingsFile (host : Host) (env : Environment) : Record :=
  let path := Settings.globalFile host env
  let message :=
    if host.files.contains path then "Using global settings file" else "No global settings file"
  ⟨.debug, "machine_config::settings::sources::global_file", message,
    [("settings_path", .plain path.display)]⟩

def settings (settings : Settings) : Record :=
  ⟨.debug, "machine_config::settings", "Settings loaded",
    [("document", .plain settings.document.display)]⟩

def document (files : Files) (path : Path) : List Record :=
  if Document.isMissing files path then
    [⟨.debug, "machine_config::config::document",
      "Configuration file not found, using empty document", [("path", .plain path.display)]⟩]
  else []

def store {α : Type} (files : Files) (path : Path) (loaded : Except DocumentFault α) :
    List Record :=
  document files path ++
    match loaded with
    | .ok _ =>
      [⟨.debug, "machine_config::config", "Configuration document loaded",
        [("path", .plain path.display)]⟩]
    | .error _ => []

def memory (store : Store) (name : String) : List Record :=
  match store.memoryNode name with
  | none => []
  | some node =>
    if node.megabytes?.isSome then []
    else
      [⟨.warn, "machine_config::config", "Ignoring memory that is not a non-negative integer",
        [("machine", .quoted name), ("value", .plain node.compact)]⟩]

def box (store : Store) (kind : Machine.Kind) (name : String) : List Record :=
  match store.configuredBox name with
  | some _ => []
  | none =>
    [⟨.debug, "machine_config::config", "Using fallback box",
      [("machine", .quoted name), ("kind", .plain kind.name),
        ("box_name", .quoted (store.fallback.ofKind kind))]⟩]

def machine (store : Store) (spec : Machine.Spec) : List Record :=
  let resolved := spec.resolve store
  (if spec.memory.isNone then memory store spec.name else []) ++
    (if (Machine.nonempty spec.box).isNone then box store spec.kind spec.name else []) ++
    [⟨.debug, "machine_config::machine", "Machine resolved",
      [("machine", .plain resolved.name), ("kind", .plain resolved.kind.name),
        ("memory", .number resolved.memory.toNat), ("box_name", .plain resolved.box)]⟩]

def machines (store : Store) (specs : List Machine.Spec) : List Record :=
  specs.flatMap (machine store)

/-- The node of a category has to be an array, if there is one. -/
def listing (store : Store) (category : String) : List Record :=
  match store.document.dig ["folders", category] with
  | none | some (.array _) => []
  | some _ =>
    [⟨.warn, "machine_config::config::folders", "Folder category is not a list, ignoring it",
      [("category", .quoted category)]⟩]

def folders (store : Store) (category variableName : String) : List Record :=
  if store.env.foldersDisabled then
    [⟨.debug, "machine_config::config", "Shared folders disabled by " ++ Environment.disableFolders,
      [("category", .quoted category)]⟩]
  else
    listing store category ++
      match store.folders category variableName with
      | .error _ => []
      | .ok folders =>
        [⟨.debug, "machine_config::config", "Resolved shared folders",
          [("category", .quoted category), ("env_var", .quoted variableName),
            ("folders", .number folders.size)]⟩]

def syncedFolders (store : Store) : List Folders.Method → List Record
  | [] => []
  | method :: rest =>
    folders store method.category method.environmentVariable ++
      match store.foldersFor method with
      | .ok _ => syncedFolders store rest
      | .error _ => []

def linuxSetup (store : Store) : List Record :=
  syncedFolders store Folders.Method.all ++
    match Guest.linuxSetup store with
    | .error _ => []
    | .ok setup =>
      [⟨.debug, "machine_config::guest", "Linux guest setup planned",
        [("folders", .number setup.syncedFolders.length)]⟩]

def guest (store : Store) : Machine.Kind → List Record
  | .linux => linuxSetup store
  | .windows => []

def plan (store : Store) : List Machine.Descriptor → List Record
  | [] => []
  | machine :: rest =>
    guest store machine.kind ++
      match Guest.define store machine with
      | .ok _ => plan store rest
      | .error _ => []

end Fleet.Journal
