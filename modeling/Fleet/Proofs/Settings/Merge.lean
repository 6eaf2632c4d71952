import Fleet.Proofs.KeyMap
import Fleet.Proofs.Settings.Order

/-!
# Merging values

A value that is set over another one says what it says itself, and where it is silent the older one
still holds. This is so for a value that is merged in whole and for one that is set at the end of a
key path; and both keep the shape of settings. What is merged in may come in any order: the table
that it is merged into keeps its keys ascending.
-/
namespace Fleet.Settings
open Value

variable {shape : Shape} {fields : List (String × Shape)} {name : String} {path : List String}
  {kind : FieldKind}

theorem mergeAll_cons (target : Value) (member : String × Value) (rest : Members) :
    mergeAll target (member :: rest) =
      mergeAll (.table (Entries.put (Text.lower member.1)
        (combine (Entries.get? (Text.lower member.1) target.members) member.2)
          target.members)) rest := rfl

/-- A law that holds of the target and survives the setting of each member holds of the result. -/
theorem mergeAll_induction {motive : Value → Prop} {incoming : Members} {target : Value}
    (hTarget : motive target)
    (hStep : ∀ target, motive target → ∀ member ∈ incoming,
      motive (.table (Entries.put (Text.lower member.1)
        (combine (Entries.get? (Text.lower member.1) target.members) member.2) target.members))) :
    motive (mergeAll target incoming) := by
  induction incoming generalizing target with
  | nil => exact hTarget
  | cons member rest ih =>
    rw [mergeAll_cons]
    refine ih (hStep target hTarget member List.mem_cons_self) fun later hLater next hNext => ?_
    exact hStep later hLater next (List.mem_cons_of_mem _ hNext)

theorem combine_of_scalar? {value : Value} {x : Scalar} (h : value.scalar? = some x)
    (existing : Option Value) : combine existing value = value := by
  cases value with
  | scalar _ _ => rfl
  | array _ _ => cases h
  | table _ => cases h

section Order

theorem Ordered.members {value : Value} (h : Ordered value) : Ordered (.table value.members) := by
  cases h with
  | scalar => exact .nil
  | array => exact .nil
  | table hAscending hMembers => exact .table hAscending hMembers

theorem Ordered.of_get? {value inner : Value} (h : Ordered value)
    (hGet : Entries.get? name value.members = some inner) : Ordered inner :=
  h.members.member _ (Entries.mem_of_get? hGet)

mutual
theorem ordered_combine {existing : Option Value} (h : ∀ old ∈ existing, Ordered old) :
    (value : Value) → Ordered (combine existing value)
  | .scalar _ _ => .scalar
  | .array _ _ => .array
  | .table incoming => by
    refine ordered_mergeAll ?_ incoming
    cases existing with
    | none => exact .nil
    | some old => exact h old rfl

theorem ordered_mergeAll {target : Value} (h : Ordered target) :
    (incoming : Members) → Ordered (mergeAll target incoming)
  | [] => h
  | (key, value) :: rest => by
    have hOld : ∀ old ∈ Entries.get? (Text.lower key) target.members, Ordered old :=
      fun old hGet => h.of_get? hGet
    exact ordered_mergeAll (h.members.put (ordered_combine hOld value)) rest
end

theorem Ordered.setBelow {target : Value} {steps : List Step} (hTarget : Ordered target)
    (hSteps : steps ≠ []) (value : Value) : Ordered (setBelow target value steps) := by
  induction steps generalizing target with
  | nil => exact absurd rfl hSteps
  | cons step rest ih =>
    cases step with
    | item index => exact .array
    | member key =>
      cases rest with
      | nil => exact ordered_mergeAll hTarget [(key, value)]
      | cons next rest =>
        refine hTarget.members.put (ih ?_ (List.cons_ne_nil _ _))
        cases hGet : Entries.get? key target.members with
        | none => exact .scalar
        | some inner => exact hTarget.of_get? hGet

end Order

section Members

/-- What a merge leaves at a name in lower case. -/
theorem get?_mergeAll {incoming : Members} (hDistinct : (incoming.map Prod.fst).Nodup)
    (hName : Text.lower name = name)
    (hPlain : ∀ member ∈ incoming, Text.lower member.1 = name → member.1 = name)
    (target : Value) :
    Entries.get? name (mergeAll target incoming).members =
      (Entries.get? name incoming).elim (Entries.get? name target.members) fun value =>
        some (combine (Entries.get? name target.members) value) := by
  induction incoming generalizing target with
  | nil => rfl
  | cons member rest ih =>
    obtain ⟨key, value⟩ := member
    obtain ⟨-, hRest⟩ := List.nodup_cons.mp hDistinct
    obtain ⟨hKey, hPlain⟩ := List.forall_mem_cons.mp hPlain
    rw [mergeAll_cons, ih hRest hPlain]
    by_cases hSame : key = name
    · subst hSame
      -- The key stands once, so the rest of the merge passes the value by.
      rw [Entries.get?_eq_none_of_nodup hDistinct, hName]
      simp [Entries.get?_put_self]
    · have hLower : Text.lower key ≠ name := fun h => hSame (hKey h)
      simp [hSame, Entries.get?_put_of_ne hLower]

/-- A value that is merged in speaks for itself; where it is silent the older one holds. -/
theorem leaf?_combine (hLeads : shape.Leads path kind) {value : Value} (hFits : shape.fits value)
    (hDistinct : Distinct value) (existing : Option Value) :
    (combine existing value).leaf? path =
      (value.leaf? path).or (existing.bind fun old => old.leaf? path) := by
  induction hLeads generalizing value existing with
  | here =>
    obtain ⟨x, origin, rfl, -⟩ := Shape.fits_field_iff.mp hFits
    rfl
  | @member fields name inner path kind hField hName _ ih =>
    obtain ⟨members, rfl, hMembers⟩ := Shape.fits_record_iff.mp hFits
    have hPlain : ∀ member ∈ members, Text.lower member.1 = name → member.1 = name :=
      fun member hMember hLower => (hMembers _ hField member hMember hLower).1
    have hOld : Entries.get? name (existing.getD (.table [])).members =
        existing.bind fun old => Entries.get? name old.members := by
      cases existing <;> rfl
    rw [combine, leaf?_cons, get?_mergeAll hDistinct.nodup hName hPlain, hOld, leaf?_cons,
      members_table]
    cases hGet : Entries.get? name members with
    | none => cases existing <;> rfl
    | some value =>
      have hMember := Entries.mem_of_get? hGet
      have hInner := (hMembers _ hField _ hMember hName).2
      simp only [Option.elim_some, Option.bind_some]
      rw [ih hInner (hDistinct.member _ hMember)]
      cases existing <;> rfl

end Members

section Fits

/-- The law of a record survives the setting of a member that keeps it. -/
theorem fits_put {members : Members} {key : String} {value : Value}
    (h : (Shape.record fields).fits (.table members))
    (hValue : ∀ field ∈ fields, Text.lower key = field.1 → key = field.1 ∧ field.2.fits value) :
    (Shape.record fields).fits (.table (Entries.put key value members)) := by
  obtain ⟨_, hEq, hMembers⟩ := Shape.fits_record_iff.mp h
  cases hEq
  refine Shape.fits_record_iff.mpr ⟨_, rfl, fun field hField member hMember hLower => ?_⟩
  rcases Entries.mem_put hMember with rfl | hMember
  · exact hValue field hField hLower
  · exact hMembers field hField member hMember hLower

theorem fits_combine {value : Value} (hValue : shape.fits value) {existing : Option Value}
    (hExisting : ∀ old ∈ existing, shape.fits old) : shape.fits (combine existing value) := by
  induction shape generalizing existing value with
  | field kind =>
    obtain ⟨x, origin, rfl, -⟩ := Shape.fits_field_iff.mp hValue
    exact hValue
  | record fields ih =>
    obtain ⟨members, rfl, hMembers⟩ := Shape.fits_record_iff.mp hValue
    refine mergeAll_induction (motive := fun v => Shape.fits _ v) ?_
      fun target hTarget member hMember => ?_
    · cases existing with
      | none => exact Shape.fits_record_iff.mpr ⟨[], rfl, by simp⟩
      | some old => exact hExisting old rfl
    · obtain ⟨older, rfl, hOlder⟩ := Shape.fits_record_iff.mp hTarget
      refine fits_put hTarget fun field hField hLower => ?_
      rw [Text.lower_lower] at hLower
      obtain ⟨-, hInner⟩ := hMembers field hField member hMember hLower
      refine ⟨hLower, ih field hField hInner fun old hOld => ?_⟩
      have hOld := Entries.mem_of_get? hOld
      exact (hOlder field hField _ hOld (by rw [Text.lower_lower, hLower])).2
  | texts =>
    obtain ⟨members, rfl, hMembers⟩ := Shape.fits_texts_iff.mp hValue
    refine mergeAll_induction (motive := fun v => Shape.fits _ v) ?_
      fun target hTarget member hMember => ?_
    · cases existing with
      | none => exact Shape.fits_texts_iff.mpr ⟨[], rfl, by simp⟩
      | some old => exact hExisting old rfl
    · obtain ⟨older, rfl, hOlder⟩ := Shape.fits_texts_iff.mp hTarget
      refine Shape.fits_texts_iff.mpr ⟨_, rfl, fun other hOther => ?_⟩
      rcases Entries.mem_put hOther with rfl | hOther
      · have hText := hMembers member hMember
        obtain ⟨x, hScalar, -⟩ := (Option.any_eq_true _ _).mp hText
        rwa [combine_of_scalar? hScalar]
      · exact hOlder other hOther
  | table =>
    obtain ⟨members, rfl⟩ := Shape.fits_table_iff.mp hValue
    refine mergeAll_induction (motive := fun v => Shape.fits _ v) ?_
      fun target _ member _ => Shape.fits_table_iff.mpr ⟨_, rfl⟩
    cases existing with
    | none => exact Shape.fits_table_iff.mpr ⟨[], rfl⟩
    | some old => exact hExisting old rfl

end Fits

end Fleet.Settings
