import Fleet.Folders.Table
import Fleet.Machine.Table
import Fleet.Proofs.KeyMap
import Fleet.Proofs.Text.Table

/-!
# What listings show

A listing shows one machine, or one shared folder, a line. Where all data are words, each line can
be read back: its words are the data in the order of the columns. Memory is one word where it is left
to the provider and otherwise a number and its unit.
-/
namespace Fleet
open Text (IsTable IsWord cellText)

namespace Machine
variable {machine : Descriptor}

structure Descriptor.HasWords (machine : Descriptor) : Prop where
  name : IsWord machine.name
  hostname : IsWord machine.hostname
  ip : IsWord machine.ip
  box : IsWord machine.box
  url : ∀ url ∈ machine.url, IsWord url

def shownMemory (memory : UInt64) : List String :=
  if memory = 0 then ["default"] else [toString memory.toNat, "MB"]

/-- The words of a machine, column by column. -/
def shown (machine : Descriptor) : List (List String) :=
  [[machine.name], [machine.kind.name], [machine.hostname], [machine.ip],
    shownMemory machine.memory, [machine.box], [machine.url.getD "-"]]

def shownHeader : List (List String) :=
  [["Name"], ["Kind"], ["Hostname"], ["IP"], ["Memory"], ["Box"], ["URL"]]

theorem isWord_toString (n : Nat) : IsWord (toString n) where
  ne_empty := Nat.repr_ne_empty
  printable := by
    intro c hc
    have hDigit : c.isDigit = true := by
      rw [Nat.toString_eq_repr, Nat.toList_repr] at hc
      exact Nat.isDigit_of_mem_toDigits (by decide) (by decide) hc
    simp only [Char.isDigit, Bool.and_eq_true, decide_eq_true_eq] at hDigit
    exact ⟨UInt32.le_trans (by decide) hDigit.1, UInt32.le_trans hDigit.2 (by decide)⟩

theorem memoryText_eq (memory : UInt64) : memoryText memory = cellText (shownMemory memory) := by
  unfold memoryText shownMemory
  split
  · rfl
  · simp only [cellText, String.intercalate_cons_cons, String.intercalate_singleton]
    rw [String.append_assoc]
    rfl

theorem row_eq (machine : Descriptor) : row machine = (shown machine).map cellText := by
  simp [row, shown, memoryText_eq, cellText]

theorem table_eq (machines : List Descriptor) : table machines =
    .ofStrings (shownHeader.map cellText) ((machines.map shown).map fun row => row.map cellText) := by
  rw [table, List.map_map, funext row_eq]
  rfl

theorem isWord_name (kind : Kind) : IsWord kind.name := by
  cases kind <;> decide

theorem isWord_shownMemory (memory : UInt64) : ∀ word ∈ shownMemory memory, IsWord word := by
  unfold shownMemory
  split
  · decide
  · exact List.forall_mem_cons.mpr ⟨isWord_toString _, by decide⟩

theorem Descriptor.HasWords.isWord (h : machine.HasWords) :
    ∀ cell ∈ shown machine, ∀ word ∈ cell, IsWord word := by
  have hUrl : IsWord (machine.url.getD "-") := by
    cases hGet : machine.url with
    | none => decide
    | some url => exact h.url url hGet
  simp only [shown, List.forall_mem_cons, List.not_mem_nil, false_imp_iff, implies_true, and_true]
  exact ⟨h.name, isWord_name machine.kind, h.hostname, h.ip, isWord_shownMemory machine.memory, h.box,
    hUrl⟩

theorem isTable_listing {machines : List Descriptor} (hSome : machines ≠ [])
    (h : ∀ machine ∈ machines, machine.HasWords) :
    IsTable (listing machines) shownHeader (machines.map shown) := by
  have hCount : ∀ row ∈ machines.map shown, row.length = shownHeader.length :=
    List.forall_mem_map.mpr fun _ _ => rfl
  have hHeader : ∀ cell ∈ shownHeader, ∀ word ∈ cell, IsWord word := by decide
  have hRows : ∀ row ∈ machines.map shown, ∀ cell ∈ row, ∀ word ∈ cell, IsWord word :=
    List.forall_mem_map.mpr fun machine hMachine => (h machine hMachine).isWord
  have hTable := Text.Table.isTable_render hCount (List.forall_mem_cons.mpr ⟨hHeader, hRows⟩)
  have hEmpty : ¬machines.isEmpty = true := by simpa using hSome
  rwa [listing, if_neg hEmpty, table_eq]

end Machine

namespace Folders

def shown (pair : String × String) : List (List String) := [[pair.1], [pair.2]]

def shownHeader : List (List String) := [["Host"], ["Guest"]]

theorem row_eq (pair : String × String) : [pair.1, pair.2] = (shown pair).map cellText := by
  simp [shown, cellText]

theorem table_eq (folders : FolderMap) : table folders =
    .ofStrings (shownHeader.map cellText)
      ((folders.toList.map shown).map fun row => row.map cellText) := by
  rw [table, List.map_map, funext row_eq]
  rfl

theorem isTable_listing (category : String) {folders : FolderMap} (hSome : folders.isEmpty = false)
    (h : ∀ pair ∈ folders.toList, IsWord pair.1 ∧ IsWord pair.2) :
    IsTable (listing category folders) shownHeader (folders.toList.map shown) := by
  have hCount : ∀ row ∈ folders.toList.map shown, row.length = shownHeader.length :=
    List.forall_mem_map.mpr fun _ _ => rfl
  have hHeader : ∀ cell ∈ shownHeader, ∀ word ∈ cell, IsWord word := by decide
  have hRows : ∀ row ∈ folders.toList.map shown, ∀ cell ∈ row, ∀ word ∈ cell, IsWord word := by
    refine List.forall_mem_map.mpr fun pair hPair => ?_
    simpa [shown] using h pair hPair
  have hTable := Text.Table.isTable_render hCount (List.forall_mem_cons.mpr ⟨hHeader, hRows⟩)
  have hEmpty : ¬folders.isEmpty = true := by simp [hSome]
  rwa [listing, if_neg hEmpty, table_eq]

end Folders

/-- A listing of machines, or of the folders of a category, shows all of them in columns. -/
theorem listings_are_tables :
    (∀ machines : List Machine.Descriptor, machines ≠ [] →
      (∀ machine ∈ machines, machine.HasWords) →
      IsTable (Machine.listing machines) Machine.shownHeader (machines.map Machine.shown)) ∧
    ∀ (category : String) (folders : FolderMap), folders.isEmpty = false →
      (∀ host guest, folders.get? host = some guest → IsWord host ∧ IsWord guest) →
      ∃ pairs : List (String × String), pairs.Pairwise (fun a b => a.1 < b.1) ∧
        (∀ host guest, (host, guest) ∈ pairs ↔ folders.get? host = some guest) ∧
        IsTable (Folders.listing category folders) Folders.shownHeader (pairs.map Folders.shown) := by
  constructor
  · intro machines hSome h
    exact Machine.isTable_listing hSome h
  · intro category folders hSome h
    have hMem (host guest : String) : (host, guest) ∈ folders.toList ↔
        folders.get? host = some guest :=
      (Entries.get?_eq_some_iff_mem folders.nodup_keys).symm
    refine ⟨folders.toList, folders.ascending, hMem, Folders.isTable_listing category hSome ?_⟩
    intro pair hPair
    exact h pair.1 pair.2 ((hMem _ _).mp hPair)

/-- A machine of each kind, given in every column by words of other lengths. -/
def pairOfMachines : List Machine.Descriptor := [
  ⟨"ipa", .linux, "master.ipa.test", "192.168.100.10", 2048, "sssd-fedora", none⟩,
  ⟨"child-ad", .windows, "dc.ad", "10.0.0.1", 0, "ad", some "https://boxes.test/ad.json"⟩]

def pairOfFolders : FolderMap := KeyMap.ofList [("/src/sssd", "/s"), ("/home", "/shared/home")]

theorem listings_are_tables_of_two :
    IsTable (Machine.listing pairOfMachines) Machine.shownHeader [
      [["ipa"], ["linux"], ["master.ipa.test"], ["192.168.100.10"], ["2048", "MB"],
        ["sssd-fedora"], ["-"]],
      [["child-ad"], ["windows"], ["dc.ad"], ["10.0.0.1"], ["default"], ["ad"],
        ["https://boxes.test/ad.json"]]] ∧
    ∃ pairs : List (String × String), pairs.Pairwise (fun a b => a.1 < b.1) ∧
      (∀ host guest, (host, guest) ∈ pairs ↔ pairOfFolders.get? host = some guest) ∧
      IsTable (Folders.listing "nfs" pairOfFolders) Folders.shownHeader
        (pairs.map Folders.shown) := by
  constructor
  · apply listings_are_tables.1 pairOfMachines (List.cons_ne_nil _ _)
    refine List.forall_mem_cons.mpr ⟨?_, List.forall_mem_singleton.mpr ?_⟩
    · exact ⟨by decide, by decide, by decide, by decide, by decide⟩
    · exact ⟨by decide, by decide, by decide, by decide, by decide⟩
  · apply listings_are_tables.2 "nfs" pairOfFolders (by decide)
    have hAll : ∀ pair ∈ pairOfFolders.toList, IsWord pair.1 ∧ IsWord pair.2 := by decide
    intro host guest hGet
    exact hAll (host, guest) (Entries.mem_of_get? hGet)

end Fleet
