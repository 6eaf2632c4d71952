import Fleet.Proofs.Settings.Merge

/-!
# Setting values at key paths

A key of a layer stands for steps, and setting a value there is merging the value that has nothing
else. So a layer says at a field what its last key for that field says, and setting it leaves the
older value only where the layer is silent.
-/
namespace Fleet.Settings
open Value

variable {shape : Shape} {fields : List (String × Shape)} {path : List String} {kind : FieldKind}
  {value : Value} {key : String} {step : Step} {steps rest : List Step}

/-- The steps that a top key stands for. -/
def route (key : String) : List Step :=
  match readPath key with
  | some (name, step :: steps) => .member name :: step :: steps
  | _ => [.member key]

/-- The value that has `value` at the end of some steps and nothing else. -/
def Value.nested (value : Value) : List Step → Value
  | [] => value
  | .member name :: rest => .table [(name, value.nested rest)]
  | .item _ :: rest => .array [value.nested rest] none

@[simp] theorem nested_nil (value : Value) : value.nested [] = value := rfl

@[simp] theorem nested_member (value : Value) (name : String) (rest : List Step) :
    value.nested (.member name :: rest) = .table [(name, value.nested rest)] := rfl

@[simp] theorem nested_item (value : Value) (index : Int) (rest : List Step) :
    value.nested (.item index :: rest) = .array [value.nested rest] none := rfl

/-- What a layer says at a path; the last word holds. -/
def said (path : List String) (layer : Members) : Option Scalar :=
  layer.reverse.findSome? fun member => (member.2.nested (route member.1)).leaf? path

theorem said_cons (path : List String) (member : String × Value) (layer : Members) :
    said path (member :: layer) =
      (said path layer).or ((member.2.nested (route member.1)).leaf? path) := by
  simp [said, List.findSome?_append]

theorem route_ne_nil (key : String) : route key ≠ [] := by
  unfold route
  split <;> simp

theorem setKey_eq (root : Value) (key : String) (value : Value) :
    root.setKey key value = root.setBelow value (route key) := by
  simp only [setKey, route]
  cases readPath key with
  | none => rfl
  | some read =>
    obtain ⟨name, steps⟩ := read
    cases steps <;> rfl

theorem setAll_cons (root : Value) (member : String × Value) (layer : Members) :
    root.setAll (member :: layer) = (root.setBelow member.2 (route member.1)).setAll layer := by
  rw [← setKey_eq]
  rfl

/-- A last step merges. -/
theorem setBelow_member (target value : Value) (key : String) :
    target.setBelow value [.member key] =
      combine (some target) (value.nested [.member key]) := rfl

section Nested

theorem not_fits_field_nested : ¬(Shape.field kind).fits (value.nested (step :: rest)) := by
  intro h
  obtain ⟨x, origin, hValue, -⟩ := Shape.fits_field_iff.mp h
  cases step <;> cases hValue

theorem fits_record_nested_iff :
    (Shape.record fields).fits (value.nested (.member key :: rest)) ↔
      ∀ field ∈ fields, Text.lower key = field.1 →
        key = field.1 ∧ field.2.fits (value.nested rest) := by
  rw [nested_member, Shape.fits_record_iff]
  constructor
  · rintro ⟨members, hMembers, h⟩ field hField
    cases hMembers
    exact h field hField _ (List.mem_singleton_self _)
  · intro h
    refine ⟨_, rfl, fun field hField member hMember => ?_⟩
    rw [List.mem_singleton.mp hMember]
    exact h field hField

theorem not_fits_nested_item {index : Int} : ¬shape.fits (value.nested (.item index :: rest)) := by
  intro h
  cases shape with
  | field kind => exact not_fits_field_nested h
  | record fields => cases h
  | texts => cases h
  | table => cases h

/-- A shape that has steps takes a table for what is not there yet. -/
theorem fits_empty (h : shape.fits (value.nested (step :: rest))) : shape.fits (.table []) := by
  cases shape with
  | field kind => exact absurd h not_fits_field_nested
  | record fields => exact Shape.fits_record_iff.mpr ⟨[], rfl, by simp⟩
  | texts => rfl
  | table => rfl

theorem fits_members {old : Value} (hOld : shape.fits old)
    (h : shape.fits (value.nested (step :: rest))) : shape.fits (.table old.members) := by
  cases old with
  | table members => exact hOld
  | scalar x origin =>
    cases shape with
    | field kind => exact absurd h not_fits_field_nested
    | _ => cases hOld
  | array items origin =>
    cases shape <;> cases hOld

theorem leaf?_nil (hLeads : shape.Leads path kind)
    (h : shape.fits (value.nested (step :: rest))) : Value.nil.leaf? path = none := by
  cases hLeads with
  | here => exact absurd h not_fits_field_nested
  | member _ _ _ => rfl

theorem Distinct.nested (h : Distinct value) : Distinct (value.nested steps) := by
  induction steps with
  | nil => exact h
  | cons step rest ih =>
    cases step with
    | item index => exact .array
    | member key => exact .table (List.nodup_singleton _) (by simpa using ih)

/-- A value that is put in order stands at the end of the same steps. -/
theorem nested_inOrder (ranks : Ranks) (value : Value) (steps : List Step) :
    (value.inOrder ranks).nested steps =
      (value.nested steps).inOrder fun below => ranks (below.drop steps.length) := by
  induction steps with
  | nil => rfl
  | cons step rest ih =>
    cases step with
    | member name => rw [nested_member, ih]; rfl
    | item index => rw [nested_item, ih]; rfl

end Nested

theorem leaf?_setBelow (hLeads : shape.Leads path kind) (hSteps : steps ≠ [])
    (hFits : shape.fits (value.nested steps)) (hDistinct : Distinct value) (target : Value) :
    (target.setBelow value steps).leaf? path =
      ((value.nested steps).leaf? path).or (target.leaf? path) := by
  induction steps generalizing shape path target with
  | nil => exact absurd rfl hSteps
  | cons step rest ih =>
    cases step with
    | item index => exact absurd hFits not_fits_nested_item
    | member key =>
      cases rest with
      | nil =>
        rw [setBelow_member]
        exact leaf?_combine hLeads hFits hDistinct.nested (some target)
      | cons next rest =>
        cases hLeads with
        | here => exact absurd hFits not_fits_field_nested
        | @member fields name inner path _ hField hName hLeads =>
          change ((Entries.get? name (Entries.put key _ target.members)).bind _) =
            ((Entries.get? name [(key, value.nested (next :: rest))]).bind _).or
              ((Entries.get? name target.members).bind _)
          -- On the path the shape goes down with the steps; off it nothing below `name` is touched.
          by_cases hSame : key = name
          · subst hSame
            obtain ⟨-, hInner⟩ := fits_record_nested_iff.mp hFits _ hField hName
            rw [Entries.get?_put_self, Option.bind_some,
              ih hLeads (List.cons_ne_nil _ _) hInner]
            cases Entries.get? key target.members with
            | none => simp [leaf?_nil hLeads hInner]
            | some old => simp
          · rw [Entries.get?_put_of_ne hSame]
            simp [hSame]

theorem fits_setBelow {target : Value} (hSteps : steps ≠ [])
    (hTarget : shape.fits (.table target.members)) (hFits : shape.fits (value.nested steps)) :
    shape.fits (target.setBelow value steps) := by
  induction steps generalizing shape target with
  | nil => exact absurd rfl hSteps
  | cons step rest ih =>
    cases step with
    | item index => exact absurd hFits not_fits_nested_item
    | member key =>
      cases rest with
      | nil =>
        have hOld : ∀ old ∈ some (Value.table target.members), shape.fits old := by
          simpa using hTarget
        exact fits_combine hFits hOld
      | cons next rest =>
        cases shape with
        | field kind => exact absurd hFits not_fits_field_nested
        | texts => cases next <;> cases hFits
        | table => rfl
        | record fields =>
          refine fits_put hTarget fun field hField hLower => ?_
          obtain ⟨hKey, hInner⟩ := fits_record_nested_iff.mp hFits field hField hLower
          refine ⟨hKey, ih (List.cons_ne_nil _ _) ?_ hInner⟩
          cases hGet : Entries.get? key target.members with
          | none => exact fits_empty hInner
          | some old =>
            have hMember := Entries.mem_of_get? hGet
            obtain ⟨members, hEq, hMembers⟩ := Shape.fits_record_iff.mp hTarget
            cases hEq
            exact fits_members (hMembers field hField _ hMember hLower).2 hInner

section Layers
variable {layer : Members}

theorem leaf?_setAll (hLeads : shape.Leads path kind)
    (hLayer : ∀ member ∈ layer, shape.fits (member.2.nested (route member.1)) ∧ Distinct member.2)
    (root : Value) : (root.setAll layer).leaf? path = (said path layer).or (root.leaf? path) := by
  induction layer generalizing root with
  | nil => rfl
  | cons member rest ih =>
    obtain ⟨⟨hFits, hDistinct⟩, hRest⟩ := List.forall_mem_cons.mp hLayer
    rw [setAll_cons, ih hRest,
      leaf?_setBelow hLeads (route_ne_nil _) hFits hDistinct, said_cons, Option.or_assoc]

theorem fits_setAll {root : Value} (hRoot : (Shape.record fields).fits root)
    (hLayer : ∀ member ∈ layer, (Shape.record fields).fits (member.2.nested (route member.1))) :
    (Shape.record fields).fits (root.setAll layer) := by
  induction layer generalizing root with
  | nil => exact hRoot
  | cons member rest ih =>
    obtain ⟨hFits, hRest⟩ := List.forall_mem_cons.mp hLayer
    obtain ⟨members, rfl, -⟩ := Shape.fits_record_iff.mp hRoot
    rw [setAll_cons]
    exact ih (fits_setBelow (route_ne_nil _) hRoot hFits) hRest

theorem Ordered.setAll {root : Value} (h : Ordered root) (layer : Members) :
    Ordered (root.setAll layer) := by
  induction layer generalizing root with
  | nil => exact h
  | cons member rest ih =>
    rw [setAll_cons]
    exact ih (h.setBelow (route_ne_nil _) member.2)

end Layers

end Fleet.Settings
