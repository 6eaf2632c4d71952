import Fleet.Guest
import Fleet.Proofs.Folders.Resolution
import Mathlib.Data.List.Forall2

/-!
# What planning a fleet means

The set up of a Linux guest depends on the store alone, so all Linux guests of a plan share one set
up, and if there is none the fault does not depend on which of them asks for it first. A Windows
guest asks for nothing. `Planned` states what may be answered for a list of machines. Its proof
goes from one way to mount to all of them, and from one machine to the fleet.
-/
namespace Fleet.Guest
open Folders

/-- The folders of one way to mount, hosts ascending, each tagged with that way. -/
def Shares (store : Store) (method : Method) (part : List SyncedFolder) : Prop :=
  (∃ folders, store.foldersFor method = .ok folders ∧
    part = folders.toList.map fun pair => ⟨pair.1, pair.2, Sync.standard method⟩) ∧
  part.Pairwise fun a b => a.host < b.host

/-- The set up that all Linux guests share. -/
structure SharedSetup (store : Store) (setup : LinuxSetup) : Prop where
  folders : ∃ sshfs nfs rsync, Shares store .sshfs sshfs ∧ Shares store .nfs nfs ∧
    Shares store .rsync rsync ∧ setup.syncedFolders = sshfs ++ nfs ++ rsync
  forwards : setup.forwardEnv = [Environment.bashrc] ↔
    ∃ value, store.env.get? Environment.bashrc = some value
  forwards_only : setup.forwardEnv = [Environment.bashrc] ∨ setup.forwardEnv = []
  unshared : setup.defaultShareDisabled = true

/-- The definition hands on what the machine says, and the set up of its kind. -/
structure Defines (store : Store) (machine : Machine.Descriptor) (guest : Definition) : Prop where
  name : guest.name = machine.name
  box : guest.box = machine.box
  boxUrl : guest.boxUrl = machine.url
  hostname : guest.hostname = machine.hostname
  ip : guest.ip = machine.ip
  memory : guest.memory = machine.memory
  linux : machine.kind = .linux → ∃ setup, guest.setup = .linux setup ∧ SharedSetup store setup
  windows : machine.kind = .windows →
    guest.setup = .windows .standard ∧ guest.syncedFolders = []

/-- No token in the variable of this way to mount is malformed. -/
def IsSound (store : Store) (method : Method) : Prop :=
  store.env.IsSound method.environmentVariable

/-- The fault of the first way to mount whose variable holds a malformed token. -/
def FirstFault (store : Store) (methods : List Method) (fault : MalformedMount) : Prop :=
  ∃ method, FirstBreach (IsSound store) methods method ∧
    fault.variableName = method.environmentVariable ∧
    store.env.FirstMalformed method.environmentVariable fault.token.toList

section Setup
variable {store : Store} {method : Method} {fault : MalformedMount}

theorem syncedFoldersOf_eq_error_iff :
    syncedFoldersOf store method = .error fault ↔
      ¬store.Disabled ∧ fault.variableName = method.environmentVariable ∧
        FirstBreach IsMount (store.overrideTokens method.environmentVariable)
          fault.token.toList := by
  rw [syncedFoldersOf, Except.map_eq_error_iff, Store.foldersFor, Store.folders_eq_error_iff]

theorem syncedFoldersOf_eq_ok_iff {part : List SyncedFolder} :
    syncedFoldersOf store method = .ok part ↔ Shares store method part := by
  rw [syncedFoldersOf, Except.map_eq_ok_iff]
  constructor
  · rintro ⟨folders, hFolders, rfl⟩
    exact ⟨⟨folders, hFolders, rfl⟩, List.pairwise_map.mpr folders.ascending⟩
  · rintro ⟨⟨folders, hFolders, rfl⟩, -⟩
    exact ⟨folders, hFolders, rfl⟩

theorem Shares.unique {left right : List SyncedFolder} (hLeft : Shares store method left)
    (hRight : Shares store method right) : left = right := by
  rw [← syncedFoldersOf_eq_ok_iff] at hLeft hRight
  exact Except.ok.inj (hLeft.symm.trans hRight)

theorem not_isSound_iff :
    ¬IsSound store method ↔
      ∃ token ∈ store.overrideTokens method.environmentVariable, ¬IsMount token := by
  simp [IsSound, Store.isSound_iff]

/-- Unless folders are switched off, a way to mount succeeds exactly if its variable is sound. -/
theorem exists_syncedFoldersOf_eq_ok_iff (hOn : ¬store.Disabled) :
    (∃ part, syncedFoldersOf store method = .ok part) ↔ IsSound store method := by
  have hFails : (∃ fault, syncedFoldersOf store method = .error fault) ↔ ¬IsSound store method := by
    simp only [syncedFoldersOf, Except.map_eq_error_iff, Store.foldersFor,
      Store.exists_folders_eq_error_iff, not_isSound_iff, hOn, not_false_eq_true, true_and]
  cases hPart : syncedFoldersOf store method with
  | ok part => simpa [hPart] using hFails
  | error fault => simpa [hPart] using hFails

theorem syncedFolders_cons (method : Method) (rest : List Method) :
    syncedFolders store (method :: rest) =
      syncedFoldersOf store method >>= fun first =>
        (syncedFolders store rest).map (first ++ ·) := by
  rw [syncedFolders]
  cases syncedFolders store rest <;> rfl

theorem syncedFolders_of_disabled (h : store.Disabled) (methods : List Method) :
    ∃ folders, syncedFolders store methods = .ok folders := by
  induction methods with
  | nil => exact ⟨[], rfl⟩
  | cons method rest ih =>
    obtain ⟨folders, hFolders⟩ := ih
    rw [syncedFolders_cons, syncedFoldersOf, Store.foldersFor, Store.folders_of_disabled h,
      hFolders]
    exact ⟨_, rfl⟩

/-- Of several ways to mount, the first with a malformed token is the one that fails. -/
theorem syncedFolders_eq_error_iff {methods : List Method} :
    syncedFolders store methods = .error fault ↔
      ¬store.Disabled ∧ FirstFault store methods fault := by
  by_cases hOn : store.Disabled
  · obtain ⟨folders, hFolders⟩ := syncedFolders_of_disabled hOn methods
    simp [hFolders, hOn]
  · rw [and_iff_right hOn]
    induction methods with
    | nil => simp [syncedFolders, FirstFault]
    | cons method rest ih =>
      rw [syncedFolders_cons, Except.bind_eq_error_iff, syncedFoldersOf_eq_error_iff]
      simp only [Except.map_eq_error_iff, ih, exists_and_right,
        exists_syncedFoldersOf_eq_ok_iff hOn, FirstFault, Store.firstMalformed_iff,
        firstBreach_cons_iff]
      constructor
      · rintro (⟨-, hFault⟩ | ⟨hSound, other, hOther, hFault⟩)
        · have hBreach : ¬IsSound store method :=
            Store.not_isSound_of_firstMalformed (Store.firstMalformed_iff.mpr hFault.2)
          exact ⟨method, .inl ⟨hBreach, rfl⟩, hFault⟩
        · exact ⟨other, .inr ⟨hSound, hOther⟩, hFault⟩
      · rintro ⟨other, ⟨-, rfl⟩ | ⟨hSound, hOther⟩, hFault⟩
        · exact .inl ⟨hOn, hFault⟩
        · exact .inr ⟨hSound, other, hOther, hFault⟩

theorem syncedFolders_all_eq_ok {folders : List SyncedFolder}
    (h : syncedFolders store Method.all = .ok folders) :
    ∃ sshfs nfs rsync, Shares store .sshfs sshfs ∧ Shares store .nfs nfs ∧
      Shares store .rsync rsync ∧ folders = sshfs ++ nfs ++ rsync := by
  simp only [Method.all, syncedFolders_cons, Except.bind_eq_ok_iff, Except.map_eq_ok_iff] at h
  obtain ⟨sshfs, hSshfs, _, ⟨nfs, hNfs, _, ⟨rsync, hRsync, _, hNone, rfl⟩, rfl⟩, rfl⟩ := h
  cases hNone
  rw [syncedFoldersOf_eq_ok_iff] at hSshfs hNfs hRsync
  exact ⟨sshfs, nfs, rsync, hSshfs, hNfs, hRsync, by simp⟩

theorem linuxSetup_eq_error_iff :
    linuxSetup store = .error fault ↔ ¬store.Disabled ∧ FirstFault store Method.all fault := by
  rw [← syncedFolders_eq_error_iff, linuxSetup, Except.bind_eq_error_iff]
  simp [pure, Except.pure]

theorem SharedSetup.unique {left right : LinuxSetup} (hLeft : SharedSetup store left)
    (hRight : SharedSetup store right) : left = right := by
  obtain ⟨sshfs, nfs, rsync, hSshfs, hNfs, hRsync, hFolders⟩ := hLeft.folders
  obtain ⟨sshfs', nfs', rsync', hSshfs', hNfs', hRsync', hFolders'⟩ := hRight.folders
  have hShared : left.syncedFolders = right.syncedFolders := by
    rw [hFolders, hFolders', hSshfs.unique hSshfs', hNfs.unique hNfs', hRsync.unique hRsync']
  have hForward : left.forwardEnv = right.forwardEnv := by
    have hSame := hLeft.forwards.trans hRight.forwards.symm
    rcases hLeft.forwards_only with h | h <;> rcases hRight.forwards_only with h' | h' <;> simp_all
  have hUnshared := hLeft.unshared.trans hRight.unshared.symm
  cases left
  cases right
  simp_all

theorem sharedSetup_of_linuxSetup_eq_ok {setup : LinuxSetup} (h : linuxSetup store = .ok setup) :
    SharedSetup store setup := by
  obtain ⟨folders, hFolders, hSetup⟩ := Except.bind_eq_ok_iff.mp h
  cases hSetup
  refine ⟨syncedFolders_all_eq_ok hFolders, ?_, ?_, rfl⟩
  · rw [← KeyMap.contains_iff]
    split <;> simp_all
  · split
    · exact .inl rfl
    · exact .inr rfl

end Setup

section Fleet
variable {store : Store} {machine : Machine.Descriptor} {machines : List Machine.Descriptor}

theorem define_eq_error_iff {fault : MalformedMount} :
    define store machine = .error fault ↔
      machine.kind = .linux ∧ linuxSetup store = .error fault := by
  rw [define, Except.bind_eq_error_iff]
  cases machine.kind <;> simp [setupFor, pure, Except.pure]

theorem defines_of_define_eq_ok {guest : Definition} (h : define store machine = .ok guest) :
    Defines store machine guest := by
  obtain ⟨setup, hSetup, hGuest⟩ := Except.bind_eq_ok_iff.mp h
  cases hGuest
  refine ⟨rfl, rfl, rfl, rfl, rfl, rfl, ?_, ?_⟩
  · intro hKind
    rw [hKind, setupFor, Except.map_eq_ok_iff] at hSetup
    obtain ⟨shared, hShared, rfl⟩ := hSetup
    exact ⟨shared, rfl, sharedSetup_of_linuxSetup_eq_ok hShared⟩
  · intro hKind
    rw [hKind] at hSetup
    cases hSetup
    exact ⟨rfl, rfl⟩

theorem Defines.unique {left right : Definition} (hLeft : Defines store machine left)
    (hRight : Defines store machine right) : left = right := by
  have hSetup : left.setup = right.setup := by
    cases hKind : machine.kind with
    | linux =>
      obtain ⟨setup, hSetup, hShared⟩ := hLeft.linux hKind
      obtain ⟨setup', hSetup', hShared'⟩ := hRight.linux hKind
      rw [hSetup, hSetup', hShared.unique hShared']
    | windows => rw [(hLeft.windows hKind).1, (hRight.windows hKind).1]
  have hName := hLeft.name.trans hRight.name.symm
  have hBox := hLeft.box.trans hRight.box.symm
  have hUrl := hLeft.boxUrl.trans hRight.boxUrl.symm
  have hHostname := hLeft.hostname.trans hRight.hostname.symm
  have hIp := hLeft.ip.trans hRight.ip.symm
  have hMemory := hLeft.memory.trans hRight.memory.symm
  cases left
  cases right
  simp_all

theorem plan_cons (machine : Machine.Descriptor) (rest : List Machine.Descriptor) :
    plan store (machine :: rest) =
      define store machine >>= fun first => (plan store rest).map (first :: ·) := by
  rw [plan]
  cases plan store rest <;> rfl

/-- A plan fails as soon as it has a Linux machine and the shared set up fails, wherever that
machine stands. -/
theorem plan_eq_error_iff {fault : MalformedMount} :
    plan store machines = .error fault ↔
      (∃ machine ∈ machines, machine.kind = .linux) ∧ linuxSetup store = .error fault := by
  induction machines with
  | nil => simp [plan]
  | cons machine rest ih =>
    rw [plan_cons, Except.bind_eq_error_iff, define_eq_error_iff]
    simp only [Except.map_eq_error_iff, ih, exists_and_right, List.mem_cons,
      exists_eq_or_imp]
    constructor
    · rintro (⟨hKind, hFault⟩ | ⟨-, hRest, hFault⟩)
      · exact ⟨.inl hKind, hFault⟩
      · exact ⟨.inr hRest, hFault⟩
    · rintro ⟨hLinux, hFault⟩
      cases hFirst : define store machine with
      | error other =>
        obtain ⟨hKind, hOther⟩ := define_eq_error_iff.mp hFirst
        exact .inl ⟨hKind, hFault⟩
      | ok guest =>
        have hKind : machine.kind ≠ .linux := by
          intro hKind
          rw [define_eq_error_iff.mpr ⟨hKind, hFault⟩] at hFirst
          cases hFirst
        exact .inr ⟨⟨guest, rfl⟩, hLinux.resolve_left hKind, hFault⟩

theorem forall₂_of_plan_eq_ok {guests : List Definition} (h : plan store machines = .ok guests) :
    List.Forall₂ (Defines store) machines guests := by
  induction machines generalizing guests with
  | nil =>
    cases h
    exact .nil
  | cons machine rest ih =>
    simp only [plan_cons, Except.bind_eq_ok_iff, Except.map_eq_ok_iff] at h
    obtain ⟨first, hFirst, others, hOthers, rfl⟩ := h
    exact .cons (defines_of_define_eq_ok hFirst) (ih hOthers)

/-- A field that every guest has from its machine is handed on along the whole plan. -/
theorem map_of_plan_eq_ok {α : Type} {guests : List Definition} {ofGuest : Definition → α}
    {ofMachine : Machine.Descriptor → α}
    (hField : ∀ machine guest, Defines store machine guest → ofMachine machine = ofGuest guest)
    (h : plan store machines = .ok guests) : guests.map ofGuest = machines.map ofMachine := by
  have hFields : List.Forall₂ (· = ·) (machines.map ofMachine) (guests.map ofGuest) := by
    rw [List.forall₂_map_left_iff, List.forall₂_map_right_iff]
    exact (forall₂_of_plan_eq_ok h).imp hField
  rw [List.forall₂_eq_eq_eq] at hFields
  exact hFields.symm

end Fleet

end Fleet.Guest
