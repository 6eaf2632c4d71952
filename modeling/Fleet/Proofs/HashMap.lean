import Fleet.HashMap
import Fleet.Proofs.KeyMap
import Mathlib.Data.List.Sort

/-!
# What an order of entries leaves alone

Entries that are put in order by the ranks of their keys are the same entries. Where no key stands
twice, the value at a key is found in any order; and it is all one whether entries are left out, or
given other values, before they are put in order or after. No order is out of reach: entries can be
brought into every order by some ranks.
-/
namespace Fleet

namespace Entries
variable {α β : Type} {rank : String → Nat} {entries : List (String × α)} {entry : String × α}

theorem mem_arrange_iff : entry ∈ arrange rank entries ↔ entry ∈ entries :=
  (arrange_perm rank entries).mem_iff

theorem arrange_keys_perm (rank : String → Nat) (entries : List (String × α)) :
    ((arrange rank entries).map Prod.fst).Perm (entries.map Prod.fst) :=
  (arrange_perm rank entries).map Prod.fst

theorem place_map (f : α → β) (rank : String → Nat) (entry : String × α)
    (entries : List (String × α)) :
    place rank (entry.1, f entry.2) (entries.map fun pair => (pair.1, f pair.2)) =
      (place rank entry entries).map fun pair => (pair.1, f pair.2) := by
  induction entries with
  | nil => rfl
  | cons first rest ih =>
    simp only [List.map_cons, place]
    split
    · rfl
    · rw [ih, List.map_cons]

theorem arrange_map (f : α → β) (rank : String → Nat) (entries : List (String × α)) :
    arrange rank (entries.map fun pair => (pair.1, f pair.2)) =
      (arrange rank entries).map fun pair => (pair.1, f pair.2) := by
  induction entries with
  | nil => rfl
  | cons entry rest ih => rw [List.map_cons, arrange, ih, place_map, arrange]

section Order

/-- From low ranks to high ones. -/
def Ranked (rank : String → Nat) (entries : List (String × α)) : Prop :=
  entries.Pairwise fun a b => rank a.1 ≤ rank b.1

theorem place_of_le (h : ∀ other ∈ entries, rank entry.1 ≤ rank other.1) :
    place rank entry entries = entry :: entries := by
  cases entries with
  | nil => rfl
  | cons first rest => rw [place, if_pos (h first List.mem_cons_self)]

theorem ranked_place (h : Ranked rank entries) : Ranked rank (place rank entry entries) := by
  induction entries with
  | nil => exact List.pairwise_singleton _ _
  | cons first rest ih =>
    obtain ⟨hFirst, hRest⟩ := List.pairwise_cons.mp h
    rw [place]
    split
    · next hLe =>
      refine List.pairwise_cons.mpr ⟨List.forall_mem_cons.mpr ⟨hLe, fun other hOther => ?_⟩, h⟩
      exact hLe.trans (hFirst other hOther)
    · next hLt =>
      refine List.pairwise_cons.mpr ⟨fun other hOther => ?_, ih hRest⟩
      rcases List.mem_cons.mp ((place_perm rank entry rest).mem_iff.mp hOther) with rfl | hOther
      · omega
      · exact hFirst other hOther

theorem ranked_arrange (rank : String → Nat) (entries : List (String × α)) :
    Ranked rank (arrange rank entries) := by
  induction entries with
  | nil => exact List.Pairwise.nil
  | cons entry rest ih => exact ranked_place ih

end Order

section Filter
variable {p : String × α → Bool}

theorem filter_place_of_neg (h : p entry = false) :
    (place rank entry entries).filter p = entries.filter p := by
  induction entries with
  | nil => simp [place, h]
  | cons first rest ih =>
    rw [place]
    split
    · simp [h]
    · rw [List.filter_cons, List.filter_cons, ih]

theorem filter_place_of_pos (hRanked : Ranked rank entries) (h : p entry = true) :
    (place rank entry entries).filter p = place rank entry (entries.filter p) := by
  induction entries with
  | nil => simp [place, h]
  | cons first rest ih =>
    obtain ⟨hFirst, hRest⟩ := List.pairwise_cons.mp hRanked
    rw [place]
    split
    · next hLe =>
      -- Nothing in what is left of the entries is ranked below the one that comes first.
      have hAll : ∀ other ∈ (first :: rest).filter p, rank entry.1 ≤ rank other.1 := by
        intro other hOther
        rcases List.mem_cons.mp (List.mem_of_mem_filter hOther) with rfl | hOther
        · exact hLe
        · exact hLe.trans (hFirst other hOther)
      rw [place_of_le hAll, List.filter_cons_of_pos h]
    · next hLt =>
      cases hKeep : p first with
      | true => simp [hKeep, ih hRest, place, hLt]
      | false => simp [hKeep, ih hRest]

/-- Entries that are left out do not disturb the order of the others. -/
theorem filter_arrange (p : String × α → Bool) (rank : String → Nat)
    (entries : List (String × α)) :
    (arrange rank entries).filter p = arrange rank (entries.filter p) := by
  induction entries with
  | nil => rfl
  | cons entry rest ih =>
    rw [arrange]
    cases hKeep : p entry with
    | true =>
      rw [filter_place_of_pos (ranked_arrange rank rest) hKeep, ih, List.filter_cons_of_pos hKeep,
        arrange]
    | false =>
      rw [filter_place_of_neg hKeep, ih, List.filter_cons_of_neg (by simp [hKeep])]

end Filter

section Keys
variable {key : String}

theorem get?_perm {others : List (String × α)} (hPerm : entries.Perm others)
    (hDistinct : (entries.map Prod.fst).Nodup) (key : String) :
    get? key entries = get? key others := by
  refine Option.ext fun value => ?_
  rw [get?_eq_some_iff_mem hDistinct,
    get?_eq_some_iff_mem ((hPerm.map Prod.fst).nodup_iff.mp hDistinct), hPerm.mem_iff]

theorem get?_arrange (hDistinct : (entries.map Prod.fst).Nodup) (rank : String → Nat)
    (key : String) : get? key (arrange rank entries) = get? key entries :=
  (get?_perm (arrange_perm rank entries).symm hDistinct key).symm

/-- Ranks bring entries into every order. -/
theorem exists_arrange_eq {others : List (String × α)} (hPerm : others.Perm entries)
    (hDistinct : (entries.map Prod.fst).Nodup) : ∃ rank, arrange rank entries = others := by
  have hKeys : (others.map Prod.fst).Nodup := (hPerm.map Prod.fst).nodup_iff.mpr hDistinct
  let rank (key : String) : Nat := (others.map Prod.fst).idxOf key
  have hRanked : Ranked rank others := by
    refine List.pairwise_iff_getElem.mpr fun i j hi hj hLess => ?_
    have hRank (k : Nat) (hk : k < others.length) : rank others[k].1 = k := by
      have hIdx := hKeys.idxOf_getElem k (by simpa using hk)
      simpa [rank] using hIdx
    rw [hRank i hi, hRank j hj]
    exact hLess.le
  refine ⟨rank, ((arrange_perm rank entries).trans hPerm.symm).eq_of_pairwise ?_
    (ranked_arrange rank entries) hRanked⟩
  intro a b hA hB hLe hGe
  have hThere : a ∈ others := hPerm.mem_iff.mpr (mem_arrange_iff.mp hA)
  have hKey : a.1 = b.1 := (List.idxOf_inj (List.mem_map_of_mem hThere)).mp (hLe.antisymm hGe)
  exact List.inj_on_of_nodup_map hKeys hThere hB hKey

end Keys

end Entries

namespace HashMap
variable {α : Type} {map : HashMap α}

theorem get?_toKeyMap (map : HashMap α) (key : String) :
    map.toKeyMap.get? key = Entries.get? key map.toList := by
  rw [toKeyMap, KeyMap.ofList, toList, KeyMap.get?_insertAll_of_nodup map.distinct,
    KeyMap.get?_empty, Option.or_none]

theorem get?_toKeyMap_iff {key : String} {value : α} :
    map.toKeyMap.get? key = some value ↔ (key, value) ∈ map.toList := by
  rw [get?_toKeyMap, toList, Entries.get?_eq_some_iff_mem map.distinct]

theorem toKeyMap_ofKeyMap (rank : String → Nat) (map : KeyMap α) :
    (ofKeyMap rank map).toKeyMap = map :=
  KeyMap.ext_get? fun key =>
    (get?_toKeyMap _ key).trans (Entries.get?_arrange map.nodup_keys rank key)

end HashMap

end Fleet
