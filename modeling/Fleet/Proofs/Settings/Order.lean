import Fleet.Proofs.Settings.Ordered
import Fleet.Proofs.Settings.Shape

/-!
# What an order of tables leaves alone

A value that is put in order has the same members under the same keys, each of them put in order
itself, and the same scalars. So it has the shape that it had before, and where every key stands
once also the same scalar at the end of every path. Leaving members out by their keys goes before or
after.
-/
namespace Fleet.Settings
open Value

variable {ranks : Ranks} {members : Members} {member : String × Value} {value : Value}
  {name : String}

section Tables

theorem membersInOrder_eq_map (ranks : Ranks) (members : Members) :
    membersInOrder ranks members = members.map fun member =>
      (member.1, member.2.inOrder (ranks.below (.member member.1))) := by
  induction members with
  | nil => rfl
  | cons member rest ih => rw [membersInOrder, ih, List.map_cons]

theorem inOrder_table (ranks : Ranks) (members : Members) :
    (Value.table members).inOrder ranks = .table (Members.inOrder ranks members) := rfl

theorem mem_inOrder_iff : member ∈ Members.inOrder ranks members ↔
    ∃ source ∈ members,
      member = (source.1, source.2.inOrder (ranks.below (.member source.1))) := by
  rw [Members.inOrder, Entries.mem_arrange_iff, membersInOrder_eq_map, List.mem_map]
  simp only [eq_comm]

theorem forall_key_inOrder (law : String → Prop) (h : ∀ member ∈ members, law member.1)
    (ranks : Ranks) : ∀ member ∈ Members.inOrder ranks members, law member.1 := by
  intro member hMember
  obtain ⟨source, hSource, rfl⟩ := mem_inOrder_iff.mp hMember
  exact h source hSource

theorem keys_inOrder_perm (ranks : Ranks) (members : Members) :
    ((Members.inOrder ranks members).map Prod.fst).Perm (members.map Prod.fst) := by
  refine (Entries.arrange_keys_perm (ranks []) _).trans ?_
  rw [membersInOrder_eq_map, List.map_map]
  exact .refl _

theorem filter_inOrder (p : String → Bool) (ranks : Ranks) (members : Members) :
    ((Members.inOrder ranks members).filter fun member => p member.1) =
      Members.inOrder ranks (members.filter fun member => p member.1) := by
  rw [Members.inOrder, Members.inOrder, Entries.filter_arrange, membersInOrder_eq_map,
    membersInOrder_eq_map, List.filter_map]
  rfl

theorem get?_membersInOrder (ranks : Ranks) (members : Members) (name : String) :
    Entries.get? name (membersInOrder ranks members) =
      (Entries.get? name members).map fun value => value.inOrder (ranks.below (.member name)) := by
  induction members with
  | nil => rfl
  | cons member rest ih =>
    obtain ⟨key, value⟩ := member
    by_cases hKey : key = name
    · simp [membersInOrder, hKey]
    · simp [membersInOrder, hKey, ih]

theorem get?_inOrder (hDistinct : (members.map Prod.fst).Nodup) (ranks : Ranks) (name : String) :
    Entries.get? name (Members.inOrder ranks members) =
      (Entries.get? name members).map fun value => value.inOrder (ranks.below (.member name)) := by
  have hKeys : ((membersInOrder ranks members).map Prod.fst).Nodup := by
    rw [membersInOrder_eq_map, List.map_map]
    exact hDistinct
  rw [Members.inOrder, Entries.get?_arrange hKeys, get?_membersInOrder]

end Tables

theorem nodup_inOrder (h : (members.map Prod.fst).Nodup) (ranks : Ranks) :
    ((Members.inOrder ranks members).map Prod.fst).Nodup :=
  (keys_inOrder_perm ranks members).nodup_iff.mpr h

theorem Distinct.inOrder (h : Distinct value) (ranks : Ranks) : Distinct (value.inOrder ranks) := by
  induction h generalizing ranks with
  | scalar => exact .scalar
  | array => exact .array
  | table hNodup _ ih =>
    refine .table (nodup_inOrder hNodup ranks) fun member hMember => ?_
    obtain ⟨source, hSource, rfl⟩ := mem_inOrder_iff.mp hMember
    exact ih source hSource _

section Scalars

@[simp]
theorem scalar?_inOrder (ranks : Ranks) (value : Value) :
    (value.inOrder ranks).scalar? = value.scalar? := by
  cases value <;> rfl

@[simp]
theorem isText_inOrder (ranks : Ranks) (value : Value) :
    (value.inOrder ranks).isText = value.isText := by
  rw [isText, isText, scalar?_inOrder]

/-- Where every key stands once, the order does not matter to what is at the end of a path. -/
theorem leaf?_inOrder (h : Distinct value) (ranks : Ranks) (path : List String) :
    (value.inOrder ranks).leaf? path = value.leaf? path := by
  induction path generalizing value ranks with
  | nil => exact scalar?_inOrder ranks value
  | cons name rest ih =>
    cases h with
    | scalar => rfl
    | array => rfl
    | table hNodup hMembers =>
      rw [inOrder_table, leaf?_cons, leaf?_cons, members_table, members_table,
        get?_inOrder hNodup]
      cases hGet : Entries.get? name _ with
      | none => rfl
      | some inner => exact ih (hMembers _ (Entries.mem_of_get? hGet)) _

end Scalars

/-- Putting a value in order does not change its shape. -/
theorem fits_inOrder_iff {shape : Shape} (ranks : Ranks) :
    shape.fits (value.inOrder ranks) = true ↔ shape.fits value = true := by
  induction shape generalizing value ranks with
  | field kind => simp [Shape.fits]
  | record fields ih =>
    cases value with
    | scalar x origin => exact Iff.rfl
    | array items origin => exact Iff.rfl
    | table members =>
      rw [inOrder_table, Shape.fits, Shape.fits, Shape.fieldsFit_iff, Shape.fieldsFit_iff]
      refine forall₂_congr fun field hField => ?_
      constructor
      · intro h member hMember hLower
        obtain ⟨hKey, hFits⟩ := h _ (mem_inOrder_iff.mpr ⟨member, hMember, rfl⟩) hLower
        exact ⟨hKey, (ih field hField _).mp hFits⟩
      · intro h member hMember hLower
        obtain ⟨source, hSource, rfl⟩ := mem_inOrder_iff.mp hMember
        obtain ⟨hKey, hFits⟩ := h source hSource hLower
        exact ⟨hKey, (ih field hField _).mpr hFits⟩
  | texts =>
    cases value with
    | scalar x origin => exact Iff.rfl
    | array items origin => exact Iff.rfl
    | table members =>
      rw [inOrder_table, Shape.fits, Shape.fits, List.all_eq_true, List.all_eq_true]
      constructor
      · intro h member hMember
        have hText := h _ (mem_inOrder_iff.mpr ⟨member, hMember, rfl⟩)
        rwa [isText_inOrder] at hText
      · intro h member hMember
        obtain ⟨source, hSource, rfl⟩ := mem_inOrder_iff.mp hMember
        rw [isText_inOrder]
        exact h source hSource
  | table => cases value <;> exact Iff.rfl

end Fleet.Settings
