import Fleet.Machine.Resolve

/-!
# Guest definitions

A guest definition is what the provider of a machine is handed: the machine's own data, and a set
up that depends on its kind. A Linux guest gets every shared folder of the run, all ways to mount
in their fixed order and hosts ascending within each, and the shell start file if the environment
names one. A Windows guest gets none of these.
-/
namespace Fleet.Guest
open Fleet.Folders

/-- How a folder is mounted, with the options of that way. -/
inductive Sync where
  | sshfs (options : String)
  | nfs (udp : Bool)
  | rsync
  deriving DecidableEq, Repr

def Sync.method : Sync → Method
  | sshfs _ => .sshfs
  | nfs _ => .nfs
  | rsync => .rsync

def Sync.standard : Method → Sync
  | .sshfs => sshfs "-o cache=no"
  | .nfs => nfs false
  | .rsync => rsync

structure SyncedFolder where
  host : String
  guest : String
  sync : Sync
  deriving DecidableEq, Repr

structure LinuxSetup where
  defaultShareDisabled : Bool
  syncedFolders : List SyncedFolder
  forwardEnv : List String
  deriving DecidableEq, Repr

structure WindowsSetup where
  communicator : String
  username : String
  deriving DecidableEq, Repr

def WindowsSetup.standard : WindowsSetup := ⟨"winrm", ".\\Administrator"⟩

inductive Setup where
  | linux (setup : LinuxSetup)
  | windows (setup : WindowsSetup)
  deriving DecidableEq, Repr

structure Definition where
  name : String
  box : String
  boxUrl : Option String
  hostname : String
  ip : String
  memory : UInt64
  setup : Setup
  deriving DecidableEq, Repr

def Definition.syncedFolders (guest : Definition) : List SyncedFolder :=
  match guest.setup with
  | .linux setup => setup.syncedFolders
  | .windows _ => []

def syncedFoldersOf (store : Store) (method : Method) :
    Except MalformedMount (List SyncedFolder) :=
  (store.foldersFor method).map fun folders =>
    folders.toList.map fun pair => ⟨pair.1, pair.2, Sync.standard method⟩

/-- The folders of several ways to mount, up to the first that fails. -/
def syncedFolders (store : Store) : List Method → Except MalformedMount (List SyncedFolder)
  | [] => .ok []
  | method :: rest => do
    let first ← syncedFoldersOf store method
    let rest ← syncedFolders store rest
    return first ++ rest

def linuxSetup (store : Store) : Except MalformedMount LinuxSetup := do
  let folders ← syncedFolders store Method.all
  return {
    defaultShareDisabled := true
    syncedFolders := folders
    forwardEnv := if store.env.contains Environment.bashrc then [Environment.bashrc] else [] }

def setupFor (store : Store) : Machine.Kind → Except MalformedMount Setup
  | .linux => (linuxSetup store).map .linux
  | .windows => .ok (.windows .standard)

def define (store : Store) (machine : Machine.Descriptor) : Except MalformedMount Definition := do
  let setup ← setupFor store machine.kind
  return {
    name := machine.name
    box := machine.box
    boxUrl := machine.url
    hostname := machine.hostname
    ip := machine.ip
    memory := machine.memory
    setup }

/-- The definitions of all machines in order, or the first fault. -/
def plan (store : Store) : List Machine.Descriptor → Except MalformedMount (List Definition)
  | [] => .ok []
  | machine :: rest => do
    let first ← define store machine
    let rest ← plan store rest
    return first :: rest

end Fleet.Guest
