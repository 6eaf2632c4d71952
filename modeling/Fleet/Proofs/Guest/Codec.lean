import Fleet.Guest.Codec
import Fleet.Proofs.Json.ReadBack

/-!
# Plans read back

The text of a plan is decoded to the plan. What stands in the way of the usual argument, one member
after another, are the two tags: the set up of a guest has its system beside its own members, and a
synced folder has its way to mount beside host, guest and options. Both are taken out first, so it
must be shown that the gathered rest is just the members that do not belong to the tag.
-/
namespace Fleet.Guest
open Fleet.Folders Fleet.Json Fleet.Tree
variable {P : Type}

/-- The options of a way to mount, without its tag. -/
def Sync.options : Sync → List (String × Json)
  | .sshfs options => [("sshfs_opts_append", .string options)]
  | .nfs udp => [("nfs_udp", .bool udp)]
  | .rsync => []

theorem Sync.members_eq (sync : Sync) :
    sync.members = ("type", .string sync.method.category) :: sync.options := by
  cases sync <;> rfl

theorem Sync.key_of_mem_options {sync : Sync} {key : String}
    (h : key ∈ sync.options.map Prod.fst) : key ≠ "host" ∧ key ≠ "guest" ∧ key ≠ "type" := by
  cases sync <;> simp [Sync.options] at h <;> subst h <;> decide

theorem reads_syncTag (method : Method) : Reads syncTag (.string method.category) method := by
  intro tree h
  cases value_eq_ok_iff.mp h
  cases method <;> rfl

theorem readOptions_eq {sync : Sync} {members : List (Label Empty × Gathered)}
    (h : memberValues members = .ok sync.options) : readOptions members sync.method = .ok sync := by
  have hTree := value_eq_ok_iff.mpr (.record none none h)
  cases sync with
  | sshfs options =>
    exact sshfsShape.reads_object
      (.cons _ rfl rfl ((reads_text options).map _) <| .nil _) rfl _ hTree
  | nfs udp =>
    exact nfsShape.reads_object
      (.cons _ rfl rfl ((reads_flag udp).map _) <| .nil _) rfl _ hTree
  | rsync => rfl

theorem takeTag_others {τ : Type} {name : String} (read : Gathered → Except (Fault Empty) τ)
    (tag : τ) {members : List (Label Empty × Gathered)}
    (h : ∀ key ∈ members.map (fun member => member.1.key), key ≠ name) :
    takeTag name read (some tag) members = .ok (tag, members) := by
  induction members with
  | nil => rfl
  | cons member members ih =>
    obtain ⟨label, tree⟩ := member
    rw [List.map_cons, List.forall_mem_cons] at h
    simp [takeTag, h.1, ih h.2, bind, Except.bind, pure, Except.pure]

/-- The way to mount and its options are taken out of what is beside host and guest. -/
theorem takeTag_sync {sync : Sync} {members : List (Label Empty × Gathered)}
    (h : memberValues members = .ok sync.members) :
    ∃ options, takeTag "type" syncTag none members = .ok (sync.method, options) ∧
      memberValues options = .ok sync.options := by
  rw [Sync.members_eq] at h
  obtain ⟨label, tree, options, rfl, hKey, hTag, hOptions⟩ := memberValues_eq_ok_cons_iff.mp h
  have hKeys : ∀ key ∈ options.map (fun member => member.1.key), key ≠ "type" := by
    intro key hMem
    rw [memberValues_keys hOptions] at hMem
    exact (Sync.key_of_mem_options hMem).2.2
  have hOthers := takeTag_others syncTag sync.method hKeys
  refine ⟨options, ?_, hOptions⟩
  simp [takeTag, hKey, reads_syncTag sync.method tree hTag, hOthers, bind, Except.bind]

theorem gatherFolder_others (draft : FolderDraft) {members : List (Label Empty × Gathered)}
    (h : ∀ key ∈ members.map (fun member => member.1.key), key ≠ "host" ∧ key ≠ "guest") :
    gatherFolder draft members =
      .ok { draft with others := draft.others.reverse ++ members } := by
  induction members generalizing draft with
  | nil => simp [gatherFolder]
  | cons member members ih =>
    obtain ⟨label, tree⟩ := member
    rw [List.map_cons, List.forall_mem_cons] at h
    simp [gatherFolder, h.1, ih _ h.2]

theorem reads_syncedFolder (folder : SyncedFolder) :
    Reads SyncedFolder.read folder.toJson folder := by
  intro tree h
  cases value_eq_ok_iff.mp h with
  | record place after hMembers =>
    obtain ⟨hostLabel, host, rest, rfl, hHostKey, hHost, hRest⟩ :=
      memberValues_eq_ok_cons_iff.mp hMembers
    obtain ⟨guestLabel, guest, others, rfl, hGuestKey, hGuest, hOthers⟩ :=
      memberValues_eq_ok_cons_iff.mp hRest
    obtain ⟨options, hTag, hOptions⟩ := takeTag_sync hOthers
    have hKeys : ∀ key ∈ others.map (fun member => member.1.key),
        key ≠ "host" ∧ key ≠ "guest" := by
      intro key hMem
      rw [memberValues_keys hOthers, Sync.members_eq, List.map_cons, List.mem_cons] at hMem
      rcases hMem with rfl | hMem
      · show "type" ≠ "host" ∧ "type" ≠ "guest"
        decide
      · exact ⟨(Sync.key_of_mem_options hMem).1, (Sync.key_of_mem_options hMem).2.1⟩
    have hGathered := gatherFolder_others ⟨some folder.host, some folder.guest, []⟩ hKeys
    simp [SyncedFolder.read, gatherFolder, hHostKey, hGuestKey, reads_text _ host hHost,
      reads_text _ guest hGuest, hGathered, hTag, readOptions_eq hOptions, bind, Except.bind, pure,
      Except.pure]

/-- The members of a set up beside its system. -/
def Setup.members : Setup → List (String × Json)
  | .linux setup => [
      ("default_share_disabled", .bool setup.defaultShareDisabled),
      ("synced_folders", .array (setup.syncedFolders.map SyncedFolder.toJson)),
      ("forward_env", .array (setup.forwardEnv.map .string))]
  | .windows setup => [
      ("communicator", .string setup.communicator),
      ("username", .string setup.username)]

def Setup.kind : Setup → Machine.Kind
  | .linux _ => .linux
  | .windows _ => .windows

theorem Setup.toJson_eq (setup : Setup) :
    setup.toJson = .object (("os", .string setup.kind.name) :: setup.members) := by
  cases setup <;> rfl

theorem Setup.key_of_mem_members {setup : Setup} {key : String}
    (h : key ∈ setup.members.map Prod.fst) : key ≠ "os" := by
  cases setup <;> simp [Setup.members] at h <;> rintro rfl <;> simp at h

theorem reads_osTag (kind : Machine.Kind) : Reads (P := P) osTag (.string kind.name) kind := by
  intro tree h
  cases value_eq_ok_iff.mp h
  cases kind <;> rfl

theorem reads_linuxSetup (setup : LinuxSetup) :
    Reads linuxShape.read (.object (Setup.linux setup).members) setup :=
  linuxShape.reads_object
    (.cons _ rfl rfl ((reads_flag setup.defaultShareDisabled).map _) <|
      .cons _ rfl rfl ((Reads.listOf fun folder _ => reads_syncedFolder folder).map _) <|
      .cons _ rfl rfl ((Reads.listOf fun name _ => reads_text name).map _) <| .nil _) rfl

theorem reads_windowsSetup (setup : WindowsSetup) :
    Reads windowsShape.read (.object (Setup.windows setup).members) setup :=
  windowsShape.reads_object
    (.cons _ rfl rfl ((reads_text setup.communicator).map _) <|
      .cons _ rfl rfl ((reads_text setup.username).map _) <| .nil _) rfl

/-- The members beside the tag are read again as those of the tagged system. -/
theorem readSetup_members (setup : Setup) :
    readSetup (P := P) setup.kind (gather (.object setup.members)) = .ok setup := by
  cases setup with
  | linux setup =>
    have hRead := reads_linuxSetup setup _ (value_ofJson surplus _)
    simp [Setup.kind, readSetup, gather, hRead, regathered, Except.map, Except.mapError]
  | windows setup =>
    have hRead := reads_windowsSetup setup _ (value_ofJson surplus _)
    simp [Setup.kind, readSetup, gather, hRead, regathered, Except.map, Except.mapError]

theorem gatherSetup_others (kind : Option Machine.Kind) {members : List (Label P × Tree P)}
    {values : List (String × Json)} (hValues : memberValues members = .ok values)
    (h : ∀ key ∈ values.map Prod.fst, key ≠ "os") :
    gatherSetup kind members = .ok (kind, values) := by
  induction values generalizing members with
  | nil =>
    rw [memberValues_eq_ok_nil_iff.mp hValues]
    rfl
  | cons pair values ih =>
    obtain ⟨label, tree, rest, rfl, hKey, hTree, hRest⟩ := memberValues_eq_ok_cons_iff.mp hValues
    rw [List.map_cons, List.forall_mem_cons] at h
    simp [gatherSetup, hKey, h.1, hTree, settled, Except.mapError, ih hRest h.2, bind, Except.bind,
      pure, Except.pure]

theorem reads_setup (setup : Setup) : Reads (P := P) Setup.read setup.toJson setup := by
  intro tree h
  rw [Setup.toJson_eq] at h
  cases value_eq_ok_iff.mp h with
  | record place after hMembers =>
    obtain ⟨label, os, others, rfl, hKey, hOs, hOthers⟩ := memberValues_eq_ok_cons_iff.mp hMembers
    have hTag := (reads_osTag setup.kind).settled hOs label.settle
    have hGathered := gatherSetup_others (some setup.kind) hOthers
      fun key hMem => Setup.key_of_mem_members hMem
    simp [Setup.read, gatherSetup, hKey, hTag, hGathered, readSetup_members, bind, Except.bind]

theorem reads_single {α : Type} {name field : String} {read : Tree P → Except (Fault P) α}
    {value : Json} {a : α} (h : Reads read value a) :
    Reads (singleShape name field read).read (.object [(field, value)]) a :=
  (singleShape name field read).reads_object
    (.cons _ (List.find?_cons_of_pos (beq_self_eq_true field)) rfl (h.map _) (.nil _)) rfl

theorem reads_definition (guest : Definition) :
    Reads (P := P) Definition.read guest.toJson guest :=
  Definition.shape.reads_object
    (.cons _ rfl rfl ((reads_text guest.name).map _) <|
      .cons _ rfl rfl ((reads_text guest.box).map _) <|
      .cons _ rfl rfl ((reads_ofOption guest.boxUrl).map _) <|
      .cons _ rfl rfl ((reads_text guest.hostname).map _) <|
      .cons _ rfl rfl ((reads_single (reads_text guest.ip)).map _) <|
      .cons _ rfl rfl ((reads_single (reads_word guest.memory)).map _) <|
      .cons _ rfl rfl ((reads_setup guest.setup).map _) <| .nil _) rfl

theorem writable_syncedFolder (folder : SyncedFolder) (level : Nat) :
    Writable (level + 1) folder.toJson := by
  cases folder with
  | mk host guest sync => cases sync <;> simp [SyncedFolder.toJson, Sync.members]

theorem writable_setup (setup : Setup) (level : Nat) : Writable (level + 3) setup.toJson := by
  cases setup <;> simp [Setup.toJson, writable_syncedFolder]

theorem writable_definition (guest : Definition) (level : Nat) :
    Writable (level + 4) guest.toJson := by
  simp [Definition.toJson, writable_setup]

/-- The text of a plan is decoded to the same plan. -/
theorem decode_planJson (plan : List Definition) :
    decode readPlan (planJson plan).pretty = .ok plan := by
  -- A plan nests five deep, of the levels in `maxDepth`.
  have hWritable : Writable (122 + 5) (planJson plan) := by
    simp [planJson, writable_definition]
  exact decode_pretty hWritable (Reads.listOf fun guest _ => reads_definition guest)

end Fleet.Guest
