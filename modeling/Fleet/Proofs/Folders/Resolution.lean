import Fleet.Proofs.Document.Descent
import Fleet.Proofs.Except
import Fleet.Proofs.Folders.Tokens
import Fleet.Proofs.KeyMap
import Fleet.Proofs.Text.Runs
import Fleet.Store
import Mathlib.Tactic.Tauto

/-!
# What shared-folder resolution means

`Resolution` says, clause by clause and of the raw document and environment alone, what may be
answered when the shared folders of a category are asked for. The main statement is that one
answer meets the clauses, and that it is the one given. The clauses do not mention how a document
is descended, how a value is cut into tokens, how a token is cut or how a map is filled.
-/
namespace Fleet

namespace Folders

/-- The entry of a document is an object with this host and guest, neither of them empty. -/
def EntryGives (entry : Json) (host guest : String) : Prop :=
  ∃ members, entry = .object members ∧ Entries.get? "host" members = some (.string host) ∧
    Entries.get? "guest" members = some (.string guest) ∧ host ≠ "" ∧ guest ≠ ""

theorem side?_eq_some_iff (key : String) (entry : Json) (s : String) :
    side? key entry = some s ↔ entry.member? key = some (.string s) ∧ s ≠ "" := by
  simp [side?, Option.filter_eq_some_iff, Option.bind_eq_some_iff]

theorem listedMount?_eq_some_iff (entry : Json) (host guest : String) :
    listedMount? entry = some ⟨host, guest⟩ ↔ EntryGives entry host guest := by
  have hSides : listedMount? entry = some ⟨host, guest⟩ ↔
      side? "host" entry = some host ∧ side? "guest" entry = some guest := by
    unfold listedMount?
    split
    · simp_all
    · rename_i hNone
      simp only [reduceCtorEq, false_iff, not_and]
      intro hHost hGuest
      exact hNone host guest hHost hGuest
  rw [hSides, side?_eq_some_iff, side?_eq_some_iff]
  cases entry with
  | object members =>
    simp only [EntryGives, Json.member?, Json.object.injEq, exists_eq_left']
    tauto
  | _ => simp [EntryGives, Json.member?]

theorem entry_pair_iff (entry : Json) (host guest : String) :
    Option.map Mount.pair (listedMount? entry) = some (host, guest) ↔
      EntryGives entry host guest := by
  rw [← listedMount?_eq_some_iff]
  cases listedMount? entry with
  | none => simp
  | some mount => cases mount; simp [Mount.pair]

/-- The map of a listing holds the last word of its entries. -/
theorem get?_listed_iff (document : Document) (category host guest : String) :
    (KeyMap.ofList ((ofDocument document category).map Mount.pair)).get? host = some guest ↔
      ∃ entries, document.root.Reaches ["folders", category] (.array entries) ∧
        LastWord EntryGives entries host guest := by
  have hList (entries : List Json) :
      (KeyMap.ofList ((entries.filterMap listedMount?).map Mount.pair)).get? host = some guest ↔
        LastWord EntryGives entries host guest := by
    rw [List.map_filterMap, KeyMap.ofList,
      KeyMap.get?_insertAll_filterMap_iff entry_pair_iff entries KeyMap.empty host guest]
    simp
  unfold ofDocument listedMounts
  split
  · rename_i entries hDig
    obtain ⟨hReach, -⟩ := Document.dig_eq_some_iff.mp hDig
    rw [hList]
    constructor
    · exact fun hLast => ⟨entries, hReach, hLast⟩
    · rintro ⟨others, hOthers, hLast⟩
      cases hReach.unique hOthers
      exact hLast
  · rename_i hNone
    constructor
    · intro h
      cases h
    · rintro ⟨entries, hReach, -⟩
      exact absurd (Document.dig_eq_some_iff.mpr ⟨hReach, Json.noConfusion⟩) (hNone entries)

end Folders

namespace Environment
open Folders

/-- The tokens of a variable are what its value is laid out of; one that is not set has none. -/
def HasTokens (env : Environment) (name : String) (tokens : List (List Char)) : Prop :=
  match env.get? name with
  | none => tokens = []
  | some value => Text.Laid tokens value.toList

/-- All tokens of the variable are mounts. -/
def IsSound (env : Environment) (name : String) : Prop :=
  ∃ tokens, env.HasTokens name tokens ∧ ∀ token ∈ tokens, IsMount token

/-- Of the tokens of the variable this is the first that is no mount. -/
def FirstMalformed (env : Environment) (name : String) (token : List Char) : Prop :=
  ∃ tokens, env.HasTokens name tokens ∧ FirstBreach IsMount tokens token

end Environment

namespace Store
open Folders

/-- The tokens of a variable as they are cut. -/
def overrideTokens (store : Store) (variableName : String) : List (List Char) :=
  match store.env.get? variableName with
  | none => []
  | some value => Text.runs value.toList

/-- Shared folders are switched off. -/
def Disabled (store : Store) : Prop := store.env.get? Environment.disableFolders = some "yes"

variable {store : Store} {category variableName : String}

theorem foldersDisabled_iff : store.env.foldersDisabled = true ↔ store.Disabled := by
  simp [Environment.foldersDisabled, Environment.holds, Disabled]

theorem hasTokens_iff {tokens : List (List Char)} :
    store.env.HasTokens variableName tokens ↔ tokens = store.overrideTokens variableName := by
  unfold Environment.HasTokens overrideTokens
  cases store.env.get? variableName with
  | none => exact Iff.rfl
  | some value => exact Text.runs_eq_iff.symm.trans eq_comm

theorem isSound_iff :
    store.env.IsSound variableName ↔ ∀ token ∈ store.overrideTokens variableName, IsMount token := by
  simp only [Environment.IsSound, hasTokens_iff, exists_eq_left]

theorem firstMalformed_iff {token : List Char} :
    store.env.FirstMalformed variableName token ↔
      FirstBreach IsMount (store.overrideTokens variableName) token := by
  simp only [Environment.FirstMalformed, hasTokens_iff, exists_eq_left]

theorem not_isSound_of_firstMalformed {token : List Char}
    (h : store.env.FirstMalformed variableName token) : ¬store.env.IsSound variableName := by
  obtain ⟨other, hOther, hNot⟩ := exists_firstBreach_iff.mp ⟨token, firstMalformed_iff.mp h⟩
  exact fun hSound => hNot (isSound_iff.mp hSound other hOther)

theorem overrides_eq :
    store.overrides variableName = readMounts variableName (store.overrideTokens variableName) := by
  unfold overrides overrideTokens
  cases store.env.get? variableName with
  | none => rfl
  | some value => rfl

theorem folders_of_disabled (h : store.Disabled) :
    store.folders category variableName = .ok KeyMap.empty := by
  rw [folders, if_pos (foldersDisabled_iff.mpr h)]

theorem folders_of_enabled (h : ¬store.Disabled) :
    store.folders category variableName =
      (readMounts variableName (store.overrideTokens variableName)).map fun mounts =>
        (KeyMap.ofList ((ofDocument store.document category).map Mount.pair)).insertAll
          (mounts.map Mount.pair) := by
  rw [folders, if_neg (fun hOff => h (foldersDisabled_iff.mp hOff)), overrides_eq]
  rfl

/-- Unless folders are switched off, the first malformed token is the only reason to fail. -/
theorem folders_eq_error_iff {fault : MalformedMount} :
    store.folders category variableName = .error fault ↔
      ¬store.Disabled ∧ fault.variableName = variableName ∧
        FirstBreach IsMount (store.overrideTokens variableName) fault.token.toList := by
  by_cases h : store.Disabled
  · simp [folders_of_disabled h, h]
  · rw [folders_of_enabled h, Except.map_eq_error_iff, readMounts_eq_error_iff]
    simp [h]

theorem exists_folders_eq_error_iff :
    (∃ fault, store.folders category variableName = .error fault) ↔
      ¬store.Disabled ∧ ∃ token ∈ store.overrideTokens variableName, ¬IsMount token := by
  rw [← exists_firstBreach_iff]
  simp only [folders_eq_error_iff]
  constructor
  · rintro ⟨fault, hOn, -, hFirst⟩
    exact ⟨hOn, _, hFirst⟩
  · rintro ⟨hOn, token, hFirst⟩
    exact ⟨⟨variableName, String.ofList token⟩, hOn, rfl, by rwa [String.toList_ofList]⟩

/-- The tokens of the variable have the last word, and the entries of the document where the
tokens are silent. -/
theorem get?_folders_iff {folders : FolderMap} (hOn : ¬store.Disabled)
    (h : store.folders category variableName = .ok folders) (host guest : String) :
    folders.get? host = some guest ↔
      LastWord TokenGives (store.overrideTokens variableName) host guest ∨
        Silent TokenGives (store.overrideTokens variableName) host ∧
          ∃ entries, store.document.root.Reaches ["folders", category] (.array entries) ∧
            LastWord EntryGives entries host guest := by
  rw [folders_of_enabled hOn, Except.map_eq_ok_iff] at h
  obtain ⟨mounts, hRead, rfl⟩ := h
  obtain ⟨-, rfl⟩ := readMounts_eq_ok_iff.mp hRead
  rw [List.map_filterMap, KeyMap.get?_insertAll_filterMap_iff token_pair_iff, get?_listed_iff]

end Store

namespace Folders

/-- What may be answered when the shared folders of a category are asked for, with these tokens in
the variable. -/
structure Resolution (store : Store) (category variableName : String) (tokens : List (List Char))
    (answer : Except MalformedMount FolderMap) : Prop where
  value : store.env.HasTokens variableName tokens
  disabled : store.Disabled → answer = .ok KeyMap.empty
  fails : (∃ fault, answer = .error fault) ↔ ¬store.Disabled ∧ ∃ token ∈ tokens, ¬IsMount token
  fault : ∀ fault, answer = .error fault → fault.variableName = variableName ∧
    FirstBreach IsMount tokens fault.token.toList
  hosts : ¬store.Disabled → ∀ folders, answer = .ok folders → ∀ host,
    (∃ guest, (host, guest) ∈ folders.toList) ↔
      (∃ token ∈ tokens, ∃ guest, TokenGives token host guest) ∨
        ∃ entries, store.document.root.Reaches ["folders", category] (.array entries) ∧
          ∃ entry ∈ entries, ∃ guest, EntryGives entry host guest
  guest : ¬store.Disabled → ∀ folders, answer = .ok folders → ∀ host guest,
    (host, guest) ∈ folders.toList ↔
      LastWord TokenGives tokens host guest ∨
        Silent TokenGives tokens host ∧
          ∃ entries, store.document.root.Reaches ["folders", category] (.array entries) ∧
            LastWord EntryGives entries host guest
  ascending : ∀ folders, answer = .ok folders → folders.toList.Pairwise fun a b => a.1 < b.1
  sides : ∀ folders, answer = .ok folders → ∀ pair ∈ folders.toList, pair.1 ≠ "" ∧ pair.2 ≠ ""

section Meaning
variable {store : Store} {category variableName : String}

theorem exists_get?_folders_iff {folders : FolderMap} (hOn : ¬store.Disabled)
    (h : store.folders category variableName = .ok folders) (host : String) :
    (∃ guest, folders.get? host = some guest) ↔
      (∃ token ∈ store.overrideTokens variableName, ∃ guest, TokenGives token host guest) ∨
        ∃ entries, store.document.root.Reaches ["folders", category] (.array entries) ∧
          ∃ entry ∈ entries, ∃ guest, EntryGives entry host guest := by
  simp only [Store.get?_folders_iff hOn h, exists_or, exists_and_left, ← exists_lastWord_iff]
  rcases silent_or_lastWord TokenGives (store.overrideTokens variableName) host with hNone | hSome
  · have hNo : ¬∃ guest, LastWord TokenGives (store.overrideTokens variableName) host guest := by
      rw [exists_lastWord_iff]
      rintro ⟨token, hToken, guest, hGives⟩
      exact hNone token hToken guest hGives
    simp only [hNo, hNone, true_and, false_or]
    constructor
    · rintro ⟨guest, entries, hReach, hLast⟩
      exact ⟨entries, hReach, guest, hLast⟩
    · rintro ⟨entries, hReach, guest, hLast⟩
      exact ⟨guest, entries, hReach, hLast⟩
  · simp [hSome]

theorem sides_of_folders_eq_ok {folders : FolderMap}
    (h : store.folders category variableName = .ok folders) {host guest : String}
    (hGet : folders.get? host = some guest) : host ≠ "" ∧ guest ≠ "" := by
  by_cases hOn : store.Disabled
  · rw [Store.folders_of_disabled hOn] at h
    cases h
    cases hGet
  · rcases (Store.get?_folders_iff hOn h host guest).mp hGet with hLast | ⟨-, entries, -, hLast⟩
    · obtain ⟨token, -, -, hHost, -, hGuest⟩ := hLast.exists_mem
      exact ⟨hHost, hGuest⟩
    · obtain ⟨entry, -, members, -, -, -, hHost, hGuest⟩ := hLast.exists_mem
      exact ⟨hHost, hGuest⟩

theorem resolution_folders (store : Store) (category variableName : String) :
    Resolution store category variableName (store.overrideTokens variableName)
      (store.folders category variableName) where
  value := Store.hasTokens_iff.mpr rfl
  disabled := Store.folders_of_disabled
  fails := Store.exists_folders_eq_error_iff
  fault fault h := (Store.folders_eq_error_iff.mp h).2
  hosts hOn folders h host := by
    simp only [KeyMap.mem_toList_iff]
    exact exists_get?_folders_iff hOn h host
  guest hOn folders h host guest := by
    rw [KeyMap.mem_toList_iff]
    exact Store.get?_folders_iff hOn h host guest
  ascending folders _ := folders.ascending
  sides folders h pair hPair := sides_of_folders_eq_ok h (KeyMap.mem_toList_iff.mp hPair)

/-- The clauses leave no choice. -/
theorem Resolution.eq_folders {tokens : List (List Char)}
    {answer : Except MalformedMount FolderMap}
    (h : Resolution store category variableName tokens answer) :
    answer = store.folders category variableName := by
  obtain rfl := Store.hasTokens_iff.mp h.value
  have hActual := resolution_folders store category variableName
  cases answer with
  | error fault =>
    obtain ⟨hOn, -⟩ := h.fails.mp ⟨fault, rfl⟩
    exact (Store.folders_eq_error_iff.mpr ⟨hOn, h.fault fault rfl⟩).symm
  | ok folders =>
    by_cases hOn : store.Disabled
    · rw [h.disabled hOn, Store.folders_of_disabled hOn]
    · cases hFolders : store.folders category variableName with
      | error fault =>
        obtain ⟨other, hOther⟩ := h.fails.mpr (hActual.fails.mp ⟨fault, hFolders⟩)
        cases hOther
      | ok actual =>
        congr 1
        apply KeyMap.ext_get?
        intro host
        apply Option.ext
        intro guest
        rw [← KeyMap.mem_toList_iff, ← KeyMap.mem_toList_iff, h.guest hOn folders rfl host guest,
          hActual.guest hOn actual hFolders host guest]

end Meaning

/-- Shared-folder resolution answers what its meaning allows, and nothing else is allowed. -/
theorem resolution_iff_eq_folders (store : Store) (category variableName : String)
    (answer : Except MalformedMount FolderMap) :
    (∃ tokens, Resolution store category variableName tokens answer) ↔
      answer = store.folders category variableName := by
  constructor
  · rintro ⟨tokens, h⟩
    exact h.eq_folders
  · rintro rfl
    exact ⟨_, resolution_folders store category variableName⟩

example :
    let entry (host guest : String) : Json :=
      .object [("guest", .string guest), ("host", .string host)]
    let listed : List Json :=
      [entry "/b" "/1", entry "/a" "/2", entry "/b" "/3", entry "/c" "", .null]
    let store : Store := ⟨⟨.object [("folders", .object [("nfs", .array listed)])]⟩, .standard,
      .ofList [("MOUNTS", "/a:/4 /a:/5:6")]⟩
    (store.folders "nfs" "MOUNTS").map KeyMap.toList = .ok [("/a", "/5:6"), ("/b", "/3")] := rfl

end Folders

end Fleet
