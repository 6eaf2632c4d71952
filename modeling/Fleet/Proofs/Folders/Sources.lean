import Fleet.Proofs.Folders.MountList
import Fleet.Proofs.Folders.Resolution

/-!
# Two ways to write a folder map

The shared folders of a category can be written down as entries of the document or as tokens of a
variable. The two readers have nothing in common, but a map that can be written both ways is read
back from either, and from both at once. What is written may come in any order and more than once,
since a map gives a host one guest, so that no two of its entries contradict each other. A variable
that writes a map hides every entry of the document about a host of the map. So a map that was
resolved once is resolved again if it is handed back through the variable.
-/
namespace Fleet.Folders
open Text

/-- Every pair of the map can be written as a token. -/
def Portable (folders : FolderMap) : Prop :=
  ∀ mount : Mount, mount.pair ∈ folders.toList → mount.IsToken

/-- The entries of the document for the category give the pairs of the map and nothing else. -/
def Lists (document : Document) (category : String) (folders : FolderMap) : Prop :=
  ∃ entries, document.root.Reaches ["folders", category] (.array entries) ∧
    ∀ host guest, (∃ entry ∈ entries, EntryGives entry host guest) ↔
      (host, guest) ∈ folders.toList

/-- The value is the tokens of the pairs of the map, with blanks between them. -/
def Writes (value : String) (folders : FolderMap) : Prop :=
  ∃ mounts : List Mount, (∀ mount, mount ∈ mounts ↔ mount.pair ∈ folders.toList) ∧
    Laid (mounts.map Mount.token) value.toList

/-- No entry of the document for the category gives anything. -/
def ListsNothing (document : Document) (category : String) : Prop :=
  ∀ entries, document.root.Reaches ["folders", category] (.array entries) →
    ∀ entry ∈ entries, ∀ host guest, ¬EntryGives entry host guest

/-- The entries of the document for the category are about hosts of the map. -/
def ListsHostsOf (document : Document) (category : String) (folders : FolderMap) : Prop :=
  ∀ entries, document.root.Reaches ["folders", category] (.array entries) →
    ∀ entry ∈ entries, ∀ host guest, EntryGives entry host guest →
      ∃ other, (host, other) ∈ folders.toList

section Writing
variable {folders : FolderMap} {document : Document} {category value : String}

theorem ListsNothing.hosts (h : ListsNothing document category) (folders : FolderMap) :
    ListsHostsOf document category folders := by
  intro entries hReach entry hEntry host guest hGives
  exact absurd hGives (h entries hReach entry hEntry host guest)

theorem Lists.hosts (h : Lists document category folders) :
    ListsHostsOf document category folders := by
  obtain ⟨listed, hListed, hPairs⟩ := h
  intro entries hReach entry hEntry host guest hGives
  cases hListed.unique hReach
  exact ⟨guest, (hPairs host guest).mp ⟨entry, hEntry, hGives⟩⟩

theorem Mount.IsToken.eq_of_gives {mount : Mount} (h : mount.IsToken) {host guest : String}
    (hGives : TokenGives mount.token host guest) : mount = ⟨host, guest⟩ := by
  rw [← splitMount_eq_some_iff] at hGives
  have hOwn := (splitMount_eq_some_iff mount.token mount.host mount.guest).mpr h.gives
  exact Option.some.inj (hOwn.symm.trans hGives)

theorem Writes.runs_eq (h : Writes value folders) (hPortable : Portable folders) :
    ∃ mounts : List Mount, runs value.toList = mounts.map Mount.token ∧
      (∀ mount ∈ mounts, mount.IsToken) ∧
        ∀ mount, mount ∈ mounts ↔ mount.pair ∈ folders.toList := by
  obtain ⟨mounts, hMounts, hLaid⟩ := h
  refine ⟨mounts, runs_eq_of_laid hLaid, ?_, hMounts⟩
  intro mount hMount
  exact hPortable mount ((hMounts mount).mp hMount)

theorem Writes.isMount (h : Writes value folders) (hPortable : Portable folders) :
    ∀ token ∈ runs value.toList, IsMount token := by
  obtain ⟨mounts, hRuns, hTokens, -⟩ := h.runs_eq hPortable
  rw [hRuns]
  intro token hMem
  obtain ⟨mount, hMount, rfl⟩ := List.mem_map.mp hMem
  exact ⟨mount.host, mount.guest, (hTokens mount hMount).gives⟩

theorem Writes.gives_iff (h : Writes value folders) (hPortable : Portable folders)
    (host guest : String) :
    (∃ token ∈ runs value.toList, TokenGives token host guest) ↔
      folders.get? host = some guest := by
  obtain ⟨mounts, hRuns, hTokens, hMounts⟩ := h.runs_eq hPortable
  rw [hRuns, ← KeyMap.mem_toList_iff]
  constructor
  · rintro ⟨token, hMem, hGives⟩
    obtain ⟨mount, hMount, rfl⟩ := List.mem_map.mp hMem
    cases (hTokens mount hMount).eq_of_gives hGives
    exact (hMounts ⟨host, guest⟩).mp hMount
  · intro hPair
    have hMount : ⟨host, guest⟩ ∈ mounts := (hMounts ⟨host, guest⟩).mpr hPair
    exact ⟨_, List.mem_map_of_mem hMount, (hTokens _ hMount).gives⟩

theorem exists_joins (mounts : List Mount) : ∃ text, Joins mounts text := by
  induction mounts with
  | nil => exact ⟨[], .none⟩
  | cons mount rest ih =>
    obtain ⟨text, hText⟩ := ih
    cases rest with
    | nil => exact ⟨mount.token, .one mount⟩
    | cons next rest =>
      have hBlank : AllBlank [' '] := by simp [AllBlank, isBlank]
      exact ⟨_, .more mount (List.cons_ne_nil ' ' []) hBlank hText⟩

def mountsOf (folders : FolderMap) : List Mount :=
  folders.toList.map fun pair => ⟨pair.1, pair.2⟩

theorem mem_mountsOf_iff {mount : Mount} :
    mount ∈ mountsOf folders ↔ mount.pair ∈ folders.toList := by
  constructor
  · intro hMem
    obtain ⟨pair, hPair, rfl⟩ := List.mem_map.mp hMem
    exact hPair
  · intro hPair
    exact List.mem_map.mpr ⟨mount.pair, hPair, rfl⟩

theorem exists_writes (h : Portable folders) : ∃ value, Writes value folders := by
  obtain ⟨text, hJoins⟩ := exists_joins (mountsOf folders)
  have hLaid := hJoins.laid fun mount hMount => h mount (mem_mountsOf_iff.mp hMount)
  refine ⟨String.ofList text, mountsOf folders, fun _ => mem_mountsOf_iff, ?_⟩
  rwa [String.toList_ofList]

def Mount.entry (mount : Mount) : Json :=
  .object [("guest", .string mount.guest), ("host", .string mount.host)]

theorem Mount.entry_gives_iff {mount : Mount} {host guest : String} :
    EntryGives mount.entry host guest ↔
      mount = ⟨host, guest⟩ ∧ host ≠ "" ∧ guest ≠ "" := by
  obtain ⟨ownHost, ownGuest⟩ := mount
  constructor
  · rintro ⟨members, hEntry, hHost, hGuest, hSides⟩
    cases hEntry
    cases hHost
    cases hGuest
    exact ⟨rfl, hSides⟩
  · rintro ⟨hMount, hSides⟩
    cases hMount
    exact ⟨_, rfl, rfl, rfl, hSides⟩

def documentListing (category : String) (entries : List Json) : Document :=
  ⟨.object [("folders", .object [(category, .array entries)])]⟩

theorem exists_lists (h : Portable folders) (category : String) :
    ∃ document, Lists document category folders := by
  refine ⟨documentListing category ((mountsOf folders).map Mount.entry), _,
    .member rfl (.member (if_pos rfl) (.here _)), fun host guest => ?_⟩
  constructor
  · rintro ⟨entry, hEntry, hGives⟩
    obtain ⟨mount, hMount, rfl⟩ := List.mem_map.mp hEntry
    obtain ⟨rfl, -⟩ := Mount.entry_gives_iff.mp hGives
    exact mem_mountsOf_iff.mp hMount
  · intro hPair
    have hMount : ⟨host, guest⟩ ∈ mountsOf folders := mem_mountsOf_iff.mpr hPair
    have hToken := h ⟨host, guest⟩ hPair
    refine ⟨_, List.mem_map_of_mem hMount, ?_⟩
    exact Mount.entry_gives_iff.mpr ⟨rfl, hToken.host, hToken.guest⟩

end Writing

section Reading
variable {store : Store} {folders : FolderMap} {category variableName value : String}

/-- A map whose pairs are those of the answer is the answer, if there is one. -/
theorem folders_eq_ok_of_pairs (hOn : ¬store.Disabled)
    (hTokens : ∀ token ∈ store.overrideTokens variableName, IsMount token)
    (hPairs : ∀ host guest,
      folders.get? host = some guest ↔
        LastWord TokenGives (store.overrideTokens variableName) host guest ∨
          Silent TokenGives (store.overrideTokens variableName) host ∧
            ∃ entries, store.document.root.Reaches ["folders", category] (.array entries) ∧
              LastWord EntryGives entries host guest) :
    store.folders category variableName = .ok folders := by
  cases hAnswer : store.folders category variableName with
  | error fault =>
    obtain ⟨-, token, hToken, hNot⟩ := Store.exists_folders_eq_error_iff.mp ⟨fault, hAnswer⟩
    exact absurd (hTokens token hToken) hNot
  | ok answer =>
    congr 1
    apply KeyMap.ext_get?
    intro host
    apply Option.ext
    intro guest
    rw [hPairs, Store.get?_folders_iff hOn hAnswer]

theorem folders_of_lists (hOn : ¬store.Disabled) (hLists : Lists store.document category folders)
    (hUnset : store.env.get? variableName = none) :
    store.folders category variableName = .ok folders := by
  have hTokens : store.overrideTokens variableName = [] := by
    rw [Store.overrideTokens, hUnset]
  obtain ⟨entries, hReach, hEntries⟩ := hLists
  simp only [KeyMap.mem_toList_iff] at hEntries
  refine folders_eq_ok_of_pairs hOn (by simp [hTokens]) fun host guest => ?_
  rw [hTokens, ← lastWord_iff_of_consistent hEntries]
  simp only [not_lastWord_nil, silent_nil, true_and, false_or]
  constructor
  · intro hLast
    exact ⟨entries, hReach, hLast⟩
  · rintro ⟨others, hOthers, hLast⟩
    cases hReach.unique hOthers
    exact hLast

theorem folders_of_writes (hOn : ¬store.Disabled) (hPortable : Portable folders)
    (hHosts : ListsHostsOf store.document category folders)
    (hSet : store.env.get? variableName = some value) (hWrites : Writes value folders) :
    store.folders category variableName = .ok folders := by
  have hTokens : store.overrideTokens variableName = runs value.toList := by
    rw [Store.overrideTokens, hSet]
  have hMounts := hWrites.isMount hPortable
  have hPairs := hWrites.gives_iff hPortable
  rw [← hTokens] at hMounts hPairs
  refine folders_eq_ok_of_pairs hOn hMounts fun host guest => ?_
  rw [lastWord_iff_of_consistent hPairs, silent_iff_of_consistent hPairs]
  constructor
  · exact .inl
  · rintro (hGet | ⟨hNone, entries, hReach, hLast⟩)
    · exact hGet
    · -- An entry is about a host of the map, and the tokens say nothing about this one.
      obtain ⟨entry, hEntry, hGives⟩ := hLast.exists_mem
      obtain ⟨other, hOther⟩ := hHosts entries hReach entry hEntry host guest hGives
      rw [KeyMap.mem_toList_iff, hNone] at hOther
      cases hOther

/-- Of a document no entry gives anything about a host that is not resolved. -/
theorem listsHostsOf_of_folders (hOn : ¬store.Disabled)
    (h : store.folders category variableName = .ok folders) :
    ListsHostsOf store.document category folders := by
  intro entries hReach entry hEntry host guest hGives
  simp only [KeyMap.mem_toList_iff]
  refine (exists_get?_folders_iff hOn h host).mpr (.inr ?_)
  exact ⟨entries, hReach, entry, hEntry, guest, hGives⟩

theorem folders_handed_back (hOn : ¬store.Disabled) (hPortable : Portable folders)
    (hName : variableName ≠ Environment.disableFolders)
    (h : store.folders category variableName = .ok folders) (hWrites : Writes value folders) :
    { store with env := store.env.insert variableName value }.folders category variableName =
      .ok folders := by
  have hSwitch : (store.env.insert variableName value).get? Environment.disableFolders =
      store.env.get? Environment.disableFolders := KeyMap.get?_insert_of_ne hName _ _
  have hHosts : ListsHostsOf store.document category folders := listsHostsOf_of_folders hOn h
  refine folders_of_writes ?_ hPortable hHosts (KeyMap.get?_insert_self _ _ _) hWrites
  rwa [Store.Disabled, hSwitch]

end Reading

/-- The map can be written in the document and in the variable, and is what a store answers if it
is written in either or in both. -/
structure Expressible (category variableName : String) (folders : FolderMap) : Prop where
  document : ∃ document, Lists document category folders
  value : ∃ value, Writes value folders
  listed : ∀ store : Store, ¬store.Disabled → Lists store.document category folders →
    store.env.get? variableName = none → store.folders category variableName = .ok folders
  written : ∀ (store : Store) (value : String), ¬store.Disabled →
    ListsNothing store.document category → store.env.get? variableName = some value →
    Writes value folders → store.folders category variableName = .ok folders
  both : ∀ (store : Store) (value : String), ¬store.Disabled →
    Lists store.document category folders → store.env.get? variableName = some value →
    Writes value folders → store.folders category variableName = .ok folders
  overlaid : ∀ (store : Store) (value : String), ¬store.Disabled →
    ListsHostsOf store.document category folders → store.env.get? variableName = some value →
    Writes value folders → store.folders category variableName = .ok folders
  again : ∀ (store : Store) (value : String), ¬store.Disabled →
    store.folders category variableName = .ok folders → Writes value folders →
    { store with env := store.env.insert variableName value }.folders category variableName =
      .ok folders

/-- Documents and variables express the same maps of folders. -/
theorem expressible_of_portable {folders : FolderMap} (hPortable : Portable folders)
    (category : String) {variableName : String}
    (hName : variableName ≠ Environment.disableFolders) :
    Expressible category variableName folders where
  document := exists_lists hPortable category
  value := exists_writes hPortable
  listed _ hOn hLists hUnset := folders_of_lists hOn hLists hUnset
  written _ _ hOn hNothing hSet hWrites :=
    folders_of_writes hOn hPortable (hNothing.hosts folders) hSet hWrites
  both _ _ hOn hLists hSet hWrites := folders_of_writes hOn hPortable hLists.hosts hSet hWrites
  overlaid _ _ hOn hHosts hSet hWrites := folders_of_writes hOn hPortable hHosts hSet hWrites
  again _ _ hOn hFolders hWrites := folders_handed_back hOn hPortable hName hFolders hWrites

/-- A guest may hold colons, and the hosts stand in another order than they were written in. -/
theorem expressible_of_portable_pair :
    let folders : FolderMap := .ofList [("/src", "/mnt/src:ro"), ("/home/ci", "C:")]
    Portable folders ∧ "MOUNTS" ≠ Environment.disableFolders ∧
      Expressible "nfs" "MOUNTS" folders := by
  intro folders
  have hPairs : folders.toList = [("/home/ci", "C:"), ("/src", "/mnt/src:ro")] := by decide
  have hPortable : Portable folders := by
    rintro ⟨host, guest⟩ hPair
    have hCases : host = "/home/ci" ∧ guest = "C:" ∨ host = "/src" ∧ guest = "/mnt/src:ro" := by
      simpa [hPairs, Mount.pair] using hPair
    rcases hCases with ⟨rfl, rfl⟩ | ⟨rfl, rfl⟩
    · exact ⟨by decide, by decide, by decide, by simp [Mount.token, isBlank]⟩
    · exact ⟨by decide, by decide, by decide, by simp [Mount.token, isBlank]⟩
  have hName : "MOUNTS" ≠ Environment.disableFolders := by decide
  exact ⟨hPortable, hName, expressible_of_portable hPortable "nfs" hName⟩

end Fleet.Folders
