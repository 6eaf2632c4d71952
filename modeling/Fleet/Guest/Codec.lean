import Fleet.Guest
import Fleet.Machine.Codec

/-!
# Written forms of guest definitions

The set up of a guest is one object with the member `os` beside the members of that system, and a
synced folder one object with the member `type` and its options beside `host` and `guest`. Both
are read in two steps: first the members are gathered and the tag is found among them, then the
gathered members are read again as the tagged kind of object, where places are no longer known.
-/
namespace Fleet.Guest
open Fleet.Folders
variable {P : Type}

def Sync.members : Sync → List (String × Json)
  | .sshfs options => [("type", .string "sshfs"), ("sshfs_opts_append", .string options)]
  | .nfs udp => [("type", .string "nfs"), ("nfs_udp", .bool udp)]
  | .rsync => [("type", .string "rsync")]

def SyncedFolder.toJson (folder : SyncedFolder) : Json :=
  .object (("host", .string folder.host) :: ("guest", .string folder.guest) :: folder.sync.members)

def Setup.toJson : Setup → Json
  | .linux setup => .object [
      ("os", .string "linux"),
      ("default_share_disabled", .bool setup.defaultShareDisabled),
      ("synced_folders", .array (setup.syncedFolders.map SyncedFolder.toJson)),
      ("forward_env", .array (setup.forwardEnv.map .string))]
  | .windows setup => .object [
      ("os", .string "windows"),
      ("communicator", .string setup.communicator),
      ("username", .string setup.username)]

def Definition.toJson (guest : Definition) : Json := .object [
  ("name", .string guest.name),
  ("box", .string guest.box),
  ("box_url", .ofOption guest.boxUrl),
  ("hostname", .string guest.hostname),
  ("private_network", .object [("ip", .string guest.ip)]),
  ("provider", .object [("memory", .natural guest.memory.toNat)]),
  ("guest", guest.setup.toJson)]

def planJson (plan : List Definition) : Json := .array (plan.map Definition.toJson)

/-- The fault of a gathered list with more items than are wanted. -/
def surplus (total used : Nat) : Cause :=
  .wrongLength total (if used = 1 then "1 element in sequence" else s!"{used} elements in sequence")

abbrev Gathered := Tree Empty

def gather (value : Json) : Gathered := Tree.ofJson surplus value

/-- The faults of gathered members, read at a place that encloses them. -/
def regathered {α : Type} (result : Except (Fault Empty) α) : Except (Fault P) α :=
  result.mapError fun fault => ⟨fault.cause, none⟩

/-- The way to mount that a gathered `type` names, by its name or its number. -/
def syncTag : Gathered → Except (Fault Empty) Method
  | .scalar (.string s) _ =>
    match Method.ofCategory? s with
    | some method => .ok method
    | none => .error ⟨.unknownVariant s (Method.all.map Method.category), none⟩
  | .scalar (.number (.whole n)) _ =>
    if n < 0 then
      .error ⟨.wrongType (.scalar (.number (.whole n))) "variant identifier", none⟩
    else
      match Method.all[n.toNat]? with
      | some method => .ok method
      | none =>
        .error ⟨.wrongValue (.scalar (.number (.whole n))) "variant index 0 <= i < 3", none⟩
  | tree => .error (tree.mismatch "variant identifier")

structure OptionsDraft where
  options : Option String := none
  udp : Option Bool := none

def sshfsShape : Tree.Shape Empty OptionsDraft Sync where
  name := "SyncMethod"
  fields := [⟨"sshfs_opts_append", false, (·.options.isSome),
    fun t => t.text.map fun v d => { d with options := some v }⟩]
  draft := {}
  finish draft :=
    match draft.options with
    | some options => .ok (.sshfs options)
    | none => .error "sshfs_opts_append"

def nfsShape : Tree.Shape Empty OptionsDraft Sync where
  name := "SyncMethod"
  fields := [⟨"nfs_udp", false, (·.udp.isSome),
    fun t => t.flag.map fun v d => { d with udp := some v }⟩]
  draft := {}
  finish draft :=
    match draft.udp with
    | some udp => .ok (.nfs udp)
    | none => .error "nfs_udp"

/-- Reads the options of a way to mount from the members beside its tag. -/
def readOptions (members : List (Label Empty × Gathered)) :
    Method → Except (Fault Empty) Sync
  | .sshfs => sshfsShape.read (.record none members (.closed none))
  | .nfs => nfsShape.read (.record none members (.closed none))
  | .rsync => .ok .rsync

/-- Takes the tag out of gathered members. A second tag is refused, and so is a missing one. -/
def takeTag {τ : Type} (name : String) (read : Gathered → Except (Fault Empty) τ)
    (tag : Option τ) :
    List (Label Empty × Gathered) → Except (Fault Empty) (τ × List (Label Empty × Gathered))
  | [] =>
    match tag with
    | some tag => .ok (tag, [])
    | none => .error ⟨.missing name, none⟩
  | (label, tree) :: rest =>
    if label.key = name then
      match tag with
      | some _ => .error ⟨.repeated name, none⟩
      | none => do takeTag name read (some (← read tree)) rest
    else do
      let (tag, others) ← takeTag name read tag rest
      return (tag, (label, tree) :: others)

structure FolderDraft where
  host : Option String := none
  guest : Option String := none
  others : List (Label Empty × Gathered) := []

def gatherFolder (draft : FolderDraft) :
    List (Label Empty × Gathered) → Except (Fault Empty) FolderDraft
  | [] => .ok { draft with others := draft.others.reverse }
  | (label, tree) :: rest =>
    if label.key = "host" then
      if draft.host.isSome then .error ⟨.repeated "host", none⟩
      else do gatherFolder { draft with host := some (← tree.text) } rest
    else if label.key = "guest" then
      if draft.guest.isSome then .error ⟨.repeated "guest", none⟩
      else do gatherFolder { draft with guest := some (← tree.text) } rest
    else gatherFolder { draft with others := (label, tree) :: draft.others } rest

def SyncedFolder.read : Gathered → Except (Fault Empty) SyncedFolder
  | .record _ members _ => do
    let draft ← gatherFolder {} members
    match draft.host, draft.guest with
    | none, _ => .error ⟨.missing "host", none⟩
    | _, none => .error ⟨.missing "guest", none⟩
    | some host, some guest =>
      let (method, options) ← takeTag "type" syncTag none draft.others
      return ⟨host, guest, ← readOptions options method⟩
  | tree => .error (tree.mismatch "struct SyncedFolder")

structure LinuxDraft where
  defaultShareDisabled : Option Bool := none
  syncedFolders : Option (List SyncedFolder) := none
  forwardEnv : Option (List String) := none

def LinuxDraft.finish (draft : LinuxDraft) : Except String LinuxSetup :=
  match draft.defaultShareDisabled, draft.syncedFolders, draft.forwardEnv with
  | none, _, _ => .error "default_share_disabled"
  | _, none, _ => .error "synced_folders"
  | _, _, none => .error "forward_env"
  | some disabled, some folders, some env => .ok ⟨disabled, folders, env⟩

def linuxShape : Tree.Shape Empty LinuxDraft LinuxSetup where
  name := "LinuxSetup"
  fields := [
    ⟨"default_share_disabled", false, (·.defaultShareDisabled.isSome),
      fun t => t.flag.map fun v d => { d with defaultShareDisabled := some v }⟩,
    ⟨"synced_folders", false, (·.syncedFolders.isSome),
      fun t => (t.listOf SyncedFolder.read).map fun v d => { d with syncedFolders := some v }⟩,
    ⟨"forward_env", false, (·.forwardEnv.isSome),
      fun t => (t.listOf Tree.text).map fun v d => { d with forwardEnv := some v }⟩]
  draft := {}
  finish := LinuxDraft.finish

structure WindowsDraft where
  communicator : Option String := none
  username : Option String := none

def WindowsDraft.finish (draft : WindowsDraft) : Except String WindowsSetup :=
  match draft.communicator, draft.username with
  | none, _ => .error "communicator"
  | _, none => .error "username"
  | some communicator, some username => .ok ⟨communicator, username⟩

def windowsShape : Tree.Shape Empty WindowsDraft WindowsSetup where
  name := "WindowsSetup"
  fields := [
    ⟨"communicator", false, (·.communicator.isSome),
      fun t => t.text.map fun v d => { d with communicator := some v }⟩,
    ⟨"username", false, (·.username.isSome),
      fun t => t.text.map fun v d => { d with username := some v }⟩]
  draft := {}
  finish := WindowsDraft.finish

def readSetup (kind : Machine.Kind) (content : Gathered) : Except (Fault P) Setup :=
  match kind with
  | .linux => regathered ((linuxShape.read content).map .linux)
  | .windows => regathered ((windowsShape.read content).map .windows)

/-- The system that an `os` names, in small letters only. -/
def osTag : Tree P → Except (Fault P) Machine.Kind
  | .scalar (.string s) place =>
    if s = "linux" then .ok .linux
    else if s = "windows" then .ok .windows
    else .error ⟨.unknownVariant s ["linux", "windows"], place⟩
  | tree => .error (tree.mismatch "variant identifier")

/-- Gathers the members of a set up and finds its system, in text order. -/
def gatherSetup (kind : Option Machine.Kind) :
    List (Label P × Tree P) → Except (Fault P) (Option Machine.Kind × List (String × Json))
  | [] => .ok (kind, [])
  | (label, tree) :: rest =>
    if label.key = "os" then
      match kind with
      | some _ => .error ⟨.repeated "os", label.keyPlace⟩
      | none => do
        let found ← Tree.settled label.settle (osTag tree)
        gatherSetup (some found) rest
    else do
      let value ← Tree.settled label.settle tree.value
      let (kind, others) ← gatherSetup kind rest
      return (kind, (label.key, value) :: others)

def Setup.read : Tree P → Except (Fault P) Setup
  | .record _ members ending => do
    let (kind, others) ← gatherSetup none members
    match ending with
    | .cut fault => .error fault
    | .closed after =>
      match kind with
      | none => .error ⟨.missing "os", after⟩
      | some kind => readSetup kind (gather (.object others))
  | .list _ [] ending =>
    match ending with
    | .cut fault => .error fault
    | .closed after => .error ⟨.missing "os", after⟩
  | .list _ ((slot, tag) :: items) ending => do
    let kind ← Tree.settled slot.settle (osTag tag)
    let values ← Tree.itemValues items
    Tree.ended ending
    readSetup kind (gather (.array values))
  | tree => .error (tree.mismatch "internally tagged enum GuestSetup")

structure ValueDraft (α : Type) where
  value : Option α := none

/-- A record with a single field. -/
def singleShape {α : Type} (name field : String) (read : Tree P → Except (Fault P) α) :
    Tree.Shape P (ValueDraft α) α where
  name := name
  fields := [⟨field, false, (·.value.isSome), fun t => (read t).map fun v _ => ⟨some v⟩⟩]
  draft := {}
  finish draft :=
    match draft.value with
    | some value => .ok value
    | none => .error field

structure Definition.Draft where
  name : Option String := none
  box : Option String := none
  boxUrl : Option (Option String) := none
  hostname : Option String := none
  ip : Option String := none
  memory : Option UInt64 := none
  setup : Option Setup := none

def Definition.Draft.finish (draft : Draft) : Except String Definition :=
  match draft.name, draft.box, draft.hostname, draft.ip, draft.memory, draft.setup with
  | none, _, _, _, _, _ => .error "name"
  | _, none, _, _, _, _ => .error "box"
  | _, _, none, _, _, _ => .error "hostname"
  | _, _, _, none, _, _ => .error "private_network"
  | _, _, _, _, none, _ => .error "provider"
  | _, _, _, _, _, none => .error "guest"
  | some name, some box, some hostname, some ip, some memory, some setup =>
    .ok ⟨name, box, draft.boxUrl.join, hostname, ip, memory, setup⟩

def Definition.shape : Tree.Shape P Draft Definition where
  name := "GuestDefinition"
  fields := [
    ⟨"name", false, (·.name.isSome), fun t => t.text.map fun v d => { d with name := some v }⟩,
    ⟨"box", false, (·.box.isSome), fun t => t.text.map fun v d => { d with box := some v }⟩,
    ⟨"box_url", false, (·.boxUrl.isSome),
      fun t => (t.optional Tree.text).map fun v d => { d with boxUrl := some v }⟩,
    ⟨"hostname", false, (·.hostname.isSome),
      fun t => t.text.map fun v d => { d with hostname := some v }⟩,
    ⟨"private_network", false, (·.ip.isSome),
      fun t => ((singleShape "PrivateNetwork" "ip" Tree.text).read t).map
        fun v d => { d with ip := some v }⟩,
    ⟨"provider", false, (·.memory.isSome),
      fun t => ((singleShape "LibvirtProvider" "memory" Tree.word).read t).map
        fun v d => { d with memory := some v }⟩,
    ⟨"guest", false, (·.setup.isSome),
      fun t => (Setup.read t).map fun v d => { d with setup := some v }⟩]
  draft := {}
  finish := Draft.finish

def Definition.read (tree : Tree P) : Except (Fault P) Definition := shape.read tree

def readPlan (tree : Tree P) : Except (Fault P) (List Definition) :=
  tree.listOf Definition.read

end Fleet.Guest
