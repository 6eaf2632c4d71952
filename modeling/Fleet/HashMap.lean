import Fleet.KeyMap

/-!
# Hash maps

A hash map is gone through in an order that nobody chooses: it may be any order of its entries, and
every map has its own. So a hash map is held as its entries in this order, each key once. An order
is given by ranks of the keys, and where all ranks are the same the entries stay as they are.
-/
namespace Fleet

namespace Entries
variable {α : Type}

/-- Puts an entry in front of the first one whose rank is no lower. -/
def place (rank : String → Nat) (entry : String × α) : List (String × α) → List (String × α)
  | [] => [entry]
  | first :: rest =>
    if rank entry.1 ≤ rank first.1 then entry :: first :: rest else first :: place rank entry rest

/-- The entries by rank. Those of one rank stay in the order that they are in. -/
def arrange (rank : String → Nat) : List (String × α) → List (String × α)
  | [] => []
  | entry :: rest => place rank entry (arrange rank rest)

theorem place_perm (rank : String → Nat) (entry : String × α) (entries : List (String × α)) :
    (place rank entry entries).Perm (entry :: entries) := by
  induction entries with
  | nil => exact .refl _
  | cons first rest ih =>
    unfold place
    split
    · exact .refl _
    · exact (ih.cons first).trans (.swap entry first rest)

theorem arrange_perm (rank : String → Nat) (entries : List (String × α)) :
    (arrange rank entries).Perm entries := by
  induction entries with
  | nil => exact .refl _
  | cons entry rest ih => exact (place_perm rank entry _).trans (ih.cons entry)

end Entries

structure HashMap (α : Type) where
  entries : List (String × α)
  distinct : (entries.map Prod.fst).Nodup

namespace HashMap
variable {α : Type}

def empty : HashMap α := ⟨[], List.nodup_nil⟩

/-- A map of the same entries, gone through in the order of these ranks. -/
def ofKeyMap (rank : String → Nat) (map : KeyMap α) : HashMap α :=
  ⟨Entries.arrange rank map.toList,
    ((Entries.arrange_perm rank map.toList).map Prod.fst).nodup_iff.mpr map.nodup_keys⟩

def toList (map : HashMap α) : List (String × α) := map.entries

/-- What the map holds, whatever order it is gone through in. -/
def toKeyMap (map : HashMap α) : KeyMap α := .ofList map.toList

end HashMap

end Fleet
