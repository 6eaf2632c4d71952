import Fleet.Folders.Codec
import Fleet.Proofs.Json.ReadBack
import Fleet.Proofs.KeyMap
import Fleet.Proofs.Text.ByteOrder

/-!
# What insertions add up to

`SumsUp` says, clause by clause, what a map of folders is once some pairs were inserted one after
another: what is iterated and in which order, what is found, how many hosts there are, and what is
written of the map and read back. The clauses look at the inserted pairs alone. The main statement
is that a run of insertions ends in the one map that meets them, and that runs which agree on the
last guest of every host end in the same map.
-/
namespace Fleet.Folders

/-- What a map is once these pairs of host and guest were inserted, one after another. -/
structure SumsUp (inserted : List (String × String)) (folders : FolderMap) : Prop where
  ascending : folders.toList.Pairwise fun a b => a.1.toUTF8.data.toList < b.1.toUTF8.data.toList
  once : ∀ host,
    (folders.toList.map Prod.fst).count host = if host ∈ inserted.map Prod.fst then 1 else 0
  pairs : ∀ host guest, (host, guest) ∈ folders.toList ↔ folders.get? host = some guest
  guest : ∀ host guest,
    folders.get? host = some guest ↔ LastWord KeyMap.PairGives inserted host guest
  missing : ∀ host, folders.get? host = none ↔ host ∉ inserted.map Prod.fst
  size : folders.size = (inserted.map Prod.fst).toFinset.card
  empty : folders.isEmpty = true ↔ inserted = []
  collected : KeyMap.ofList folders.toList = folders
  -- The second reading keeps the members apart and in the order of the text.
  written : Json.decode readMap (mapJson folders).pretty = .ok folders
  members : Json.decode (Tree.entriesOf Tree.text) (mapJson folders).pretty = .ok folders.toList

section Written
variable {P : Type} (folders : FolderMap)

theorem reads_members : Tree.Reads (P := P) (Tree.entriesOf Tree.text) (mapJson folders)
    folders.toList :=
  Tree.Reads.entriesOf fun pair _ => Tree.reads_text pair.2

theorem reads_map : Tree.Reads (P := P) readMap (mapJson folders) folders := by
  have h := (reads_members (P := P) folders).map KeyMap.ofList
  rwa [KeyMap.ofList_toList] at h

theorem writable_mapJson : Json.Writable Json.maxDepth (mapJson folders) := by
  refine .object fun member hMember => ?_
  obtain ⟨pair, -, rfl⟩ := List.mem_map.mp hMember
  exact .string pair.2

end Written

theorem sumsUp_ofList (inserted : List (String × String)) :
    SumsUp inserted (KeyMap.ofList inserted) where
  ascending := (KeyMap.ofList inserted).ascending.imp Text.bytes_lt_iff.mpr
  once host := by
    rw [(KeyMap.nodup_keys _).count]
    simp only [KeyMap.mem_keys_ofList_iff]
  pairs _ _ := KeyMap.mem_toList_iff
  guest _ _ := KeyMap.get?_ofList_iff
  missing _ := KeyMap.get?_ofList_eq_none_iff
  size := KeyMap.size_ofList
  empty := KeyMap.isEmpty_ofList_iff
  collected := KeyMap.ofList_toList _
  written := Json.decode_pretty (writable_mapJson _) (reads_map _)
  members := Json.decode_pretty (writable_mapJson _) (reads_members _)

/-- The clauses leave no choice. -/
theorem SumsUp.eq_ofList {inserted : List (String × String)} {folders : FolderMap}
    (h : SumsUp inserted folders) : folders = KeyMap.ofList inserted := by
  apply KeyMap.ext_get?
  intro host
  apply Option.ext
  intro guest
  rw [h.guest, (sumsUp_ofList inserted).guest]

/-- A run of insertions, the first of them collected at the start, ends in the map that sums them
up, and in the same map as every other run with the same last guest for each host. -/
theorem insertions_summed_up (initial insertions : List (String × String)) :
    (∀ folders, SumsUp (initial ++ insertions) folders ↔
      folders = (KeyMap.ofList initial).insertAll insertions) ∧
    ∀ otherInitial otherInsertions : List (String × String),
      (KeyMap.ofList initial).insertAll insertions =
          (KeyMap.ofList otherInitial).insertAll otherInsertions ↔
        ∀ host guest, LastWord KeyMap.PairGives (initial ++ insertions) host guest ↔
          LastWord KeyMap.PairGives (otherInitial ++ otherInsertions) host guest := by
  constructor
  · intro folders
    rw [← KeyMap.ofList_append]
    constructor
    · exact SumsUp.eq_ofList
    · rintro rfl
      exact sumsUp_ofList (initial ++ insertions)
  · intro otherInitial otherInsertions
    rw [← KeyMap.ofList_append, ← KeyMap.ofList_append]
    exact KeyMap.ofList_eq_ofList_iff

/-- Hosts stand in the order of their bytes, which is not that of their units of sixteen bits. -/
example :
    ((KeyMap.ofList [("/😀", "/1"), ("/\uffff", "/2")]).insertAll
      [("/a", "/3"), ("/😀", "/4")]).toList = [("/a", "/3"), ("/\uffff", "/2"), ("/😀", "/4")] :=
  rfl

end Fleet.Folders
