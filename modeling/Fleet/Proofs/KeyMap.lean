import Fleet.KeyMap
import Fleet.Proofs.Decisive
import Mathlib.Data.Finset.Card

/-!
# Filling maps

A map is known by its values: two maps with the same values hold the same pairs in the same order.
Writing the pairs that a list of items gives leaves at every key the last word of the list, and
what was there before where the list is silent. So a map made of pairs has each of their keys once,
and two lists make the same map exactly if they have the same last word on every key.
-/
namespace Fleet

namespace Entries
variable {α : Type}

@[simp] theorem get?_cons (key k : String) (v : α) (rest : List (String × α)) :
    get? key ((k, v) :: rest) = if k = key then some v else get? key rest := rfl

theorem mem_of_get? {entries : List (String × α)} {key : String} {value : α}
    (h : get? key entries = some value) : (key, value) ∈ entries := by
  induction entries with
  | nil => cases h
  | cons head rest ih =>
    obtain ⟨k, v⟩ := head
    rw [get?_cons] at h
    split at h
    · next hk =>
      cases h
      exact hk ▸ List.mem_cons_self
    · exact List.mem_cons_of_mem _ (ih h)

/-- The key of the first pair stands nowhere else. -/
theorem get?_eq_none_of_nodup {key : String} {value : α} {rest : List (String × α)}
    (h : (((key, value) :: rest).map Prod.fst).Nodup) : get? key rest = none := by
  cases hGet : get? key rest with
  | none => rfl
  | some later =>
    have hMem : key ∈ rest.map Prod.fst := List.mem_map_of_mem (f := Prod.fst) (mem_of_get? hGet)
    exact absurd hMem (List.nodup_cons.mp h).1

theorem get?_eq_some_iff_mem {entries : List (String × α)} (h : (entries.map Prod.fst).Nodup)
    {key : String} {value : α} : get? key entries = some value ↔ (key, value) ∈ entries := by
  induction entries with
  | nil => simp [get?]
  | cons head rest ih =>
    obtain ⟨k, v⟩ := head
    obtain ⟨hHead, hRest⟩ := List.nodup_cons.mp h
    by_cases hk : k = key
    · subst hk
      have hNot : (k, value) ∉ rest := by
        intro hMem
        exact hHead (List.mem_map.mpr ⟨(k, value), hMem, rfl⟩)
      simp [get?, hNot, eq_comm]
    · simp [get?, hk, ih hRest, Ne.symm hk]

theorem Ascending.eq_of_mem_iff {left right : List (String × α)} (hLeft : Ascending left)
    (hRight : Ascending right) (h : ∀ pair, pair ∈ left ↔ pair ∈ right) : left = right := by
  have hPerm : left.Perm right :=
    (List.perm_ext_iff_of_nodup (.of_map _ hLeft.nodup_keys) (.of_map _ hRight.nodup_keys)).mpr h
  refine hPerm.eq_of_pairwise ?_ hLeft hRight
  intro a b _ _ hab hba
  exact absurd (String.lt_trans hab hba) (String.lt_irrefl a.1)

section PutAll
variable {ι : Type} {keyOf : ι → String} {valueOf : ι → α}

theorem mem_foldl_put {items : List ι} {entries : List (String × α)} {pair : String × α}
    (h : pair ∈ items.foldl (fun entries item => put (keyOf item) (valueOf item) entries) entries) :
    pair ∈ entries ∨ ∃ item ∈ items, pair = (keyOf item, valueOf item) := by
  induction items generalizing entries with
  | nil => exact .inl h
  | cons item rest ih =>
    rcases ih h with hPut | ⟨later, hLater, hEq⟩
    · rcases mem_put hPut with hItem | hOld
      · exact .inr ⟨item, List.mem_cons_self, hItem⟩
      · exact .inl hOld
    · exact .inr ⟨later, List.mem_cons_of_mem _ hLater, hEq⟩

theorem isSome_get?_put {key other : String} {value : α} {entries : List (String × α)}
    (h : key = other ∨ (get? other entries).isSome) :
    (get? other (put key value entries)).isSome := by
  by_cases hKey : key = other
  · subst hKey
    rw [get?_put_self]
    rfl
  · rw [get?_put_of_ne hKey]
    exact h.resolve_left hKey

/-- Every key that is written is there in the end. -/
theorem isSome_get?_foldl_put {items : List ι} {entries : List (String × α)} {key : String}
    (h : (∃ item ∈ items, keyOf item = key) ∨ (get? key entries).isSome) :
    (get? key (items.foldl
      (fun entries item => put (keyOf item) (valueOf item) entries) entries)).isSome := by
  induction items generalizing entries with
  | nil => simpa using h
  | cons item rest ih =>
    refine ih ?_
    rcases h with ⟨other, hOther, hKey⟩ | hOld
    · rcases List.mem_cons.mp hOther with rfl | hRest
      · exact .inr (isSome_get?_put (.inl hKey))
      · exact .inl ⟨other, hRest, hKey⟩
    · exact .inr (isSome_get?_put (.inr hOld))

end PutAll

section Order
variable {ι β : Type} {key : String} {entries : List (String × α)}

/-- A key beyond all others is written at the end. -/
theorem put_eq_append (h : ∀ pair ∈ entries, pair.1 < key) (value : α) :
    put key value entries = entries ++ [(key, value)] := by
  induction entries with
  | nil => rfl
  | cons head rest ih =>
    obtain ⟨k, v⟩ := head
    obtain ⟨hHead, hRest⟩ := List.forall_mem_cons.mp h
    have hNot : ¬key < k := fun hLess => String.lt_irrefl k (String.lt_trans hHead hLess)
    rw [put, if_neg hNot, if_pos hHead, ih hRest, List.cons_append]

theorem lt_of_ascending_append {pair : String × α} {rest : List (String × α)}
    (h : Ascending (entries ++ pair :: rest)) : ∀ earlier ∈ entries, earlier.1 < pair.1 := by
  intro earlier hEarlier
  exact (List.pairwise_append.mp h).2.2 earlier hEarlier pair List.mem_cons_self

/-- Pairs that ascend are written one after another as they stand. -/
theorem foldl_put_eq_append {keyOf : ι → String} {valueOf : ι → α} {items : List ι}
    (h : Ascending (entries ++ items.map fun item => (keyOf item, valueOf item))) :
    items.foldl (fun entries item => put (keyOf item) (valueOf item) entries) entries =
      entries ++ items.map fun item => (keyOf item, valueOf item) := by
  induction items generalizing entries with
  | nil => simp
  | cons item rest ih =>
    rw [List.map_cons] at h
    have hSplit : entries ++ (keyOf item, valueOf item) :: rest.map
        (fun item => (keyOf item, valueOf item)) = (entries ++ [(keyOf item, valueOf item)]) ++
          rest.map fun item => (keyOf item, valueOf item) := by simp
    rw [List.foldl_cons, put_eq_append (lt_of_ascending_append h), ih (hSplit ▸ h), List.map_cons,
      hSplit]

theorem put_map (f : α → β) (key : String) (value : α) (entries : List (String × α)) :
    (put key value entries).map (fun pair => (pair.1, f pair.2)) =
      put key (f value) (entries.map fun pair => (pair.1, f pair.2)) := by
  induction entries with
  | nil => rfl
  | cons head rest ih =>
    obtain ⟨k, v⟩ := head
    simp only [put, List.map_cons]
    split
    · rfl
    · split
      · rw [List.map_cons, ih]
      · rfl

end Order

end Entries

namespace KeyMap
variable {ι α : Type}

@[simp] theorem insertAll_nil (map : KeyMap α) : map.insertAll [] = map := rfl

@[simp] theorem insertAll_cons (map : KeyMap α) (pair : String × α)
    (pairs : List (String × α)) :
    map.insertAll (pair :: pairs) = (map.insert pair.1 pair.2).insertAll pairs := rfl

theorem mem_toList_iff {map : KeyMap α} {key : String} {value : α} :
    (key, value) ∈ map.toList ↔ map.get? key = some value :=
  (Entries.get?_eq_some_iff_mem map.nodup_keys).symm

theorem contains_iff {map : KeyMap α} {key : String} :
    map.contains key = true ↔ ∃ value, map.get? key = some value :=
  Option.isSome_iff_exists

/-- Two maps with the same values hold the same pairs in the same order. -/
theorem ext_get? {left right : KeyMap α} (h : ∀ key, left.get? key = right.get? key) :
    left = right := by
  have hMem (pair : String × α) : pair ∈ left.entries ↔ pair ∈ right.entries := by
    calc
      pair ∈ left.entries ↔ left.get? pair.1 = some pair.2 := mem_toList_iff
      _ ↔ right.get? pair.1 = some pair.2 := by rw [h]
      _ ↔ pair ∈ right.entries := mem_toList_iff.symm
  have hEq : left.entries = right.entries := left.ascending.eq_of_mem_iff right.ascending hMem
  cases left
  cases right
  congr

/-- Maps with the same values at some keys hold the same pairs with these keys. -/
theorem filter_toList_congr {left right : KeyMap α} {p : String → Bool}
    (h : ∀ key, p key = true → left.get? key = right.get? key) :
    (left.toList.filter fun pair => p pair.1) = right.toList.filter fun pair => p pair.1 := by
  have hAscending (map : KeyMap α) : Entries.Ascending (map.toList.filter fun pair => p pair.1) :=
    map.ascending.sublist List.filter_sublist
  refine (hAscending left).eq_of_mem_iff (hAscending right) fun ⟨key, value⟩ => ?_
  rw [List.mem_filter, List.mem_filter]
  refine and_congr_left fun hKey => ?_
  rw [mem_toList_iff, mem_toList_iff, h key hKey]

theorem entries_insertAll (map : KeyMap α) (pairs : List (String × α)) :
    (map.insertAll pairs).entries =
      pairs.foldl (fun entries pair => Entries.put pair.1 pair.2 entries) map.entries := by
  induction pairs generalizing map with
  | nil => rfl
  | cons pair rest ih => exact ih (map.insert pair.1 pair.2)

theorem entries_ofList (pairs : List (String × α)) :
    (ofList pairs).entries =
      pairs.foldl (fun entries pair => Entries.put pair.1 pair.2 entries) [] :=
  entries_insertAll empty pairs

theorem ofList_toList (map : KeyMap α) : ofList map.toList = map := by
  have hPairs : map.entries.map (fun pair => (pair.1, pair.2)) = map.entries := List.map_id _
  have hEntries : (ofList map.toList).entries = map.entries := by
    have hAscending : Entries.Ascending ([] ++ map.entries.map fun pair => (pair.1, pair.2)) := by
      rw [hPairs]
      exact map.ascending
    rw [entries_ofList, toList, Entries.foldl_put_eq_append hAscending, hPairs, List.nil_append]
  cases map
  cases h : ofList _
  rw [h] at hEntries
  congr

/-- At a key stands what the last of the pairs with this key has, or what was there before. -/
theorem get?_insertAll (map : KeyMap α) (pairs : List (String × α)) (key : String) :
    (map.insertAll pairs).get? key =
      (pairs.filter fun pair => pair.1 = key).foldl (fun _ pair => some pair.2) (map.get? key) := by
  induction pairs generalizing map with
  | nil => rfl
  | cons pair rest ih =>
    rw [insertAll_cons, ih]
    by_cases hKey : pair.1 = key
    · rw [List.filter_cons_of_pos (by simpa using hKey), List.foldl_cons, hKey, get?_insert_self]
    · rw [List.filter_cons_of_neg (by simpa using hKey), get?_insert_of_ne hKey]

theorem get?_insertAll_of_nodup {pairs : List (String × α)} (h : (pairs.map Prod.fst).Nodup)
    (map : KeyMap α) (key : String) :
    (map.insertAll pairs).get? key = (Entries.get? key pairs).or (map.get? key) := by
  induction pairs generalizing map with
  | nil => rfl
  | cons pair rest ih =>
    obtain ⟨k, v⟩ := pair
    rw [insertAll_cons, ih (List.nodup_cons.mp h).2]
    by_cases hKey : k = key
    · subst hKey
      rw [Entries.get?_eq_none_of_nodup h]
      simp
    · simp [hKey, get?_insert_of_ne]

/-- Writing what a list of items gives leaves the last word of the list at every key. -/
theorem get?_insertAll_filterMap_iff {read : ι → Option (String × α)}
    {gives : ι → String → α → Prop}
    (hRead : ∀ item key value, read item = some (key, value) ↔ gives item key value)
    (items : List ι) (map : KeyMap α) (key : String) (value : α) :
    (map.insertAll (items.filterMap read)).get? key = some value ↔
      LastWord gives items key value ∨ Silent gives items key ∧ map.get? key = some value := by
  induction items generalizing map with
  | nil => simp
  | cons item rest ih =>
    rw [lastWord_cons_iff, silent_cons_iff]
    cases hItem : read item with
    | none =>
      have hQuiet : ∀ key value, ¬gives item key value := by
        intro key value hGives
        rw [← hRead, hItem] at hGives
        cases hGives
      rw [List.filterMap_cons_none hItem, ih map]
      simp [hQuiet]
    | some pair =>
      obtain ⟨k, v⟩ := pair
      have hGives : ∀ value, gives item key value ↔ k = key ∧ v = value := by
        intro value
        rw [← hRead, hItem]
        simp
      rw [List.filterMap_cons_some hItem, insertAll_cons, ih]
      by_cases hk : k = key
      · subst hk
        simp [hGives]
      · rw [get?_insert_of_ne hk]
        simp [hGives, hk]

theorem ofList_append (first rest : List (String × α)) :
    ofList (first ++ rest) = (ofList first).insertAll rest :=
  List.foldl_append

section Pairs
variable {pairs : List (String × α)} {key : String}

def PairGives (pair : String × α) (key : String) (value : α) : Prop := pair = (key, value)

theorem get?_ofList_iff {value : α} :
    (ofList pairs).get? key = some value ↔ LastWord PairGives pairs key value := by
  have hRead (pair : String × α) (key : String) (value : α) :
      some pair = some (key, value) ↔ PairGives pair key value := Option.some_inj
  have hPairs := get?_insertAll_filterMap_iff hRead pairs empty key value
  rw [List.filterMap_some] at hPairs
  simpa [ofList] using hPairs

theorem mem_keys_iff {map : KeyMap α} :
    key ∈ map.toList.map Prod.fst ↔ ∃ value, map.get? key = some value := by
  simp [← mem_toList_iff]

theorem mem_keys_ofList_iff :
    key ∈ (ofList pairs).toList.map Prod.fst ↔ key ∈ pairs.map Prod.fst := by
  simp [mem_keys_iff, get?_ofList_iff, exists_lastWord_iff, PairGives]

theorem get?_ofList_eq_none_iff :
    (ofList pairs).get? key = none ↔ key ∉ pairs.map Prod.fst := by
  rw [← mem_keys_ofList_iff, mem_keys_iff, ← Option.isSome_iff_exists, Option.not_isSome_iff_eq_none]

/-- What was written before the last word on a key leaves no trace. -/
theorem ofList_eq_ofList_iff {others : List (String × α)} :
    ofList pairs = ofList others ↔
      ∀ key value, LastWord PairGives pairs key value ↔ LastWord PairGives others key value := by
  simp only [← get?_ofList_iff]
  constructor
  · intro h key value
    rw [h]
  · intro h
    exact ext_get? fun key => Option.ext (h key)

theorem size_ofList : (ofList pairs).size = (pairs.map Prod.fst).toFinset.card := by
  have hKeys : (pairs.map Prod.fst).toFinset = ((ofList pairs).toList.map Prod.fst).toFinset := by
    ext key
    simp only [List.mem_toFinset, mem_keys_ofList_iff]
  rw [hKeys, List.toFinset_card_of_nodup (ofList pairs).nodup_keys, List.length_map]
  rfl

theorem isEmpty_ofList_iff : (ofList pairs).isEmpty = true ↔ pairs = [] := by
  have hKeys : (ofList pairs).toList.map Prod.fst = [] ↔ pairs.map Prod.fst = [] := by
    simp only [List.eq_nil_iff_forall_not_mem, mem_keys_ofList_iff]
  rwa [List.map_eq_nil_iff, List.map_eq_nil_iff, ← List.isEmpty_iff] at hKeys

end Pairs

end KeyMap

end Fleet
