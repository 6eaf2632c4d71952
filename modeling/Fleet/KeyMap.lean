/-!
# Maps from text keys

A finite map with text keys is held as its pairs in strictly ascending key order, by code point,
which is also the byte order of the UTF-8 form. Writing a key replaces an older value, so of
several writes the last one holds. `Entries` has the operations on bare lists of pairs, which a
recursive data type needs; `KeyMap` keeps the order as a proof. Nothing here is fast: every
operation walks the list.
-/
namespace Fleet

namespace Entries
variable {α : Type}

/-- Writes `value` at `key`, in its ascending place. -/
def put (key : String) (value : α) : List (String × α) → List (String × α)
  | [] => [(key, value)]
  | (k, v) :: rest =>
    if key < k then (key, value) :: (k, v) :: rest
    else if k < key then (k, v) :: put key value rest
    else (key, value) :: rest

/-- The value of the first pair with this key. -/
def get? (key : String) : List (String × α) → Option α
  | [] => none
  | (k, v) :: rest => if k = key then some v else get? key rest

def Ascending (entries : List (String × α)) : Prop :=
  entries.Pairwise fun a b => a.1 < b.1

theorem eq_of_not_lt {a b : String} (h : ¬a < b) (h' : ¬b < a) : a = b :=
  String.le_antisymm (String.not_lt.1 h') (String.not_lt.1 h)

@[simp] theorem get?_nil (key : String) : get? key ([] : List (String × α)) = none := rfl

theorem get?_put_self (key : String) (value : α) (entries : List (String × α)) :
    get? key (put key value entries) = some value := by
  induction entries with
  | nil => simp [put, get?]
  | cons head rest ih =>
    obtain ⟨k, v⟩ := head
    unfold put
    split
    · simp [get?]
    · split
      · next h =>
        have : k ≠ key := fun e => String.lt_irrefl key (e ▸ h)
        simp [get?, this, ih]
      · simp [get?]

theorem get?_put_of_ne {key other : String} (h : key ≠ other) (value : α)
    (entries : List (String × α)) :
    get? other (put key value entries) = get? other entries := by
  induction entries with
  | nil => simp [put, get?, h]
  | cons head rest ih =>
    obtain ⟨k, v⟩ := head
    unfold put
    split
    · simp [get?, h]
    · split
      · simp [get?, ih]
      · next h₁ h₂ =>
        have : k = key := eq_of_not_lt h₂ h₁
        simp [get?, this, h]

theorem mem_put {key : String} {value : α} {pair : String × α} {entries : List (String × α)}
    (h : pair ∈ put key value entries) : pair = (key, value) ∨ pair ∈ entries := by
  induction entries with
  | nil => simpa [put] using h
  | cons head rest ih =>
    obtain ⟨k, v⟩ := head
    unfold put at h
    split at h
    · simpa using h
    · split at h
      · rcases List.mem_cons.1 h with rfl | h
        · simp
        · rcases ih h with h | h <;> simp [h]
      · rcases List.mem_cons.1 h with h | h <;> simp [h]

theorem Ascending.put {entries : List (String × α)} (h : Ascending entries) (key : String)
    (value : α) : Ascending (put key value entries) := by
  induction entries with
  | nil => simp [Entries.put, Ascending]
  | cons head rest ih =>
    obtain ⟨k, v⟩ := head
    have ⟨hk, hrest⟩ := List.pairwise_cons.1 h
    unfold Entries.put
    split
    · next hlt =>
      refine List.pairwise_cons.2 ⟨fun pair hmem => ?_, h⟩
      rcases List.mem_cons.1 hmem with rfl | hmem
      · exact hlt
      · exact String.lt_trans hlt (hk pair hmem)
    · split
      · next hlt =>
        refine List.pairwise_cons.2 ⟨fun pair hmem => ?_, ih hrest⟩
        rcases mem_put hmem with rfl | hmem
        · exact hlt
        · exact hk pair hmem
      · next h₁ h₂ =>
        have : k = key := eq_of_not_lt h₂ h₁
        subst this
        exact List.pairwise_cons.2 ⟨hk, hrest⟩

theorem Ascending.nodup_keys {entries : List (String × α)} (h : Ascending entries) :
    (entries.map Prod.fst).Nodup := by
  refine List.pairwise_map.mpr (List.Pairwise.imp ?_ h)
  intro a b hLt hSame
  exact String.lt_irrefl a.1 (hSame ▸ hLt)

end Entries

structure KeyMap (α : Type) where
  entries : List (String × α)
  ascending : Entries.Ascending entries

namespace KeyMap
variable {α : Type}

def empty : KeyMap α := ⟨[], List.Pairwise.nil⟩

instance : Inhabited (KeyMap α) := ⟨empty⟩

def insert (map : KeyMap α) (key : String) (value : α) : KeyMap α :=
  ⟨Entries.put key value map.entries, map.ascending.put key value⟩

def insertAll (map : KeyMap α) (pairs : List (String × α)) : KeyMap α :=
  pairs.foldl (fun map pair => map.insert pair.1 pair.2) map

def ofList (pairs : List (String × α)) : KeyMap α := empty.insertAll pairs

def get? (map : KeyMap α) (key : String) : Option α := Entries.get? key map.entries

def contains (map : KeyMap α) (key : String) : Bool := (map.get? key).isSome

def toList (map : KeyMap α) : List (String × α) := map.entries

def size (map : KeyMap α) : Nat := map.entries.length

def isEmpty (map : KeyMap α) : Bool := map.entries.isEmpty

theorem nodup_keys (map : KeyMap α) : (map.toList.map Prod.fst).Nodup :=
  map.ascending.nodup_keys

@[simp] theorem get?_empty (key : String) : (empty : KeyMap α).get? key = none := rfl

@[simp] theorem get?_insert_self (map : KeyMap α) (key : String) (value : α) :
    (map.insert key value).get? key = some value :=
  Entries.get?_put_self key value map.entries

theorem get?_insert_of_ne {key other : String} (h : key ≠ other) (map : KeyMap α) (value : α) :
    (map.insert key value).get? other = map.get? other :=
  Entries.get?_put_of_ne h value map.entries

end KeyMap

end Fleet
