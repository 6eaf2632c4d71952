import Fleet.Machine.Resolve
import Fleet.Proofs.Guest.Plan
import Mathlib.Data.List.Forall2

/-!
# Machines of one run keep apart

What a machine gets depends on its specification, on the node of its name below `boxes` and on the
fallback boxes; the rest of the document and the other machines of a manifest have no say. A
manifest is reordered by `pick`, which takes the items at given positions: descriptors and plan are
then reordered likewise. Which specifications a manifest holds decides whether its plan fails and
how, and neither their order nor their number does.
-/
namespace Fleet

namespace Document
variable {left right : Document} {path : List String}

/-- Where two documents agree on a node, they agree on all that is below it. -/
theorem dig_below_congr (h : left.dig path = right.dig path) (below : List String) :
    left.dig (path ++ below) = right.dig (path ++ below) := by
  rw [dig_append, dig_append, h]

end Document

namespace Machine

theorem resolve_congr {left right : Store} {spec : Spec}
    (hFallback : left.fallback = right.fallback)
    (hNode : left.document.dig ["boxes", spec.name] = right.document.dig ["boxes", spec.name]) :
    spec.resolve left = spec.resolve right := by
  have hMember (key : String) :
      left.document.dig ["boxes", spec.name, key] = right.document.dig ["boxes", spec.name, key] :=
    Document.dig_below_congr hNode [key]
  have hMemory : left.memory spec.name = right.memory spec.name := by
    rw [Store.memory, Store.memoryNode, hMember, Store.memory, Store.memoryNode]
  have hBox : left.box spec.kind spec.name = right.box spec.kind spec.name := by
    rw [Store.box, Store.configuredBox, Document.digString, hMember, hFallback, Store.box,
      Store.configuredBox, Document.digString]
  have hUrl : left.boxUrl spec.name = right.boxUrl spec.name := by
    rw [Store.boxUrl, Document.digString, hMember, Store.boxUrl, Document.digString]
  rw [Spec.resolve, Spec.resolve, hMemory, hBox, hUrl]

end Machine

/-- The items at these positions, in the order of the positions. -/
def pick {α : Type} (positions : List Nat) (items : List α) : List α :=
  positions.filterMap fun i => items[i]?

section Pick
variable {α β : Type} {positions : List Nat} {items : List α}

theorem pick_range (items : List α) : pick (List.range items.length) items = items := by
  induction items with
  | nil => rfl
  | cons item rest ih =>
    rw [pick, List.length_cons, List.range_succ_eq_map, List.filterMap_cons_some (by rfl),
      List.filterMap_map]
    exact congrArg (item :: ·) ih

theorem pick_map (f : α → β) (positions : List Nat) (items : List α) :
    pick positions (items.map f) = (pick positions items).map f := by
  simp [pick, List.map_filterMap]

theorem mem_pick_iff (h : positions.Perm (List.range items.length)) {item : α} :
    item ∈ pick positions items ↔ item ∈ items := by
  have hPerm : (pick positions items).Perm items := by
    have hAll := h.filterMap fun i => items[i]?
    rwa [show (List.range items.length).filterMap (fun i => items[i]?) = items from
      pick_range items] at hAll
  exact hPerm.mem_iff

end Pick

namespace Guest
open Folders Machine
variable {store : Store}

section Plan
variable {machines : List Descriptor} {guests : List Definition}

/-- Every machine of a plan has its own definition, at its own position. -/
theorem getElem?_plan (h : plan store machines = .ok guests) {i : Nat} {machine : Descriptor}
    (hMachine : machines[i]? = some machine) :
    ∃ guest, guests[i]? = some guest ∧ define store machine = .ok guest := by
  induction machines generalizing guests i with
  | nil => simp at hMachine
  | cons first rest ih =>
    simp only [plan_cons, Except.bind_eq_ok_iff, Except.map_eq_ok_iff] at h
    obtain ⟨guest, hGuest, others, hOthers, rfl⟩ := h
    cases i with
    | zero =>
      cases hMachine
      exact ⟨guest, rfl, hGuest⟩
    | succ i => exact ih hOthers hMachine

theorem length_plan (h : plan store machines = .ok guests) : guests.length = machines.length :=
  (forall₂_of_plan_eq_ok h).length_eq.symm

/-- Of machines that can be planned, every choice in every order can be planned. -/
theorem plan_pick_of_ok (h : plan store machines = .ok guests) (positions : List Nat) :
    plan store (pick positions machines) = .ok (pick positions guests) := by
  induction positions with
  | nil => rfl
  | cons i rest ih =>
    cases hMachine : machines[i]? with
    | none =>
      have hGuest : guests[i]? = none := by
        rw [List.getElem?_eq_none_iff] at hMachine ⊢
        rwa [length_plan h]
      rw [pick, List.filterMap_cons_none hMachine, pick, List.filterMap_cons_none hGuest]
      exact ih
    | some machine =>
      obtain ⟨guest, hGuest, hDefine⟩ := getElem?_plan h hMachine
      rw [pick, List.filterMap_cons_some hMachine, pick, List.filterMap_cons_some hGuest,
        plan_cons, hDefine]
      exact congrArg (Except.map (guest :: ·)) ih

theorem plan_eq_error_congr {left right : List Descriptor}
    (h : ∀ machine, machine ∈ left ↔ machine ∈ right) (fault : MalformedMount) :
    plan store left = .error fault ↔ plan store right = .error fault := by
  simp only [plan_eq_error_iff, h]

theorem plan_pick {positions : List Nat} (h : positions.Perm (List.range machines.length)) :
    plan store (pick positions machines) = (plan store machines).map (pick positions) := by
  cases hPlan : plan store machines with
  | ok guests => exact plan_pick_of_ok hPlan positions
  | error fault => exact (plan_eq_error_congr (fun _ => mem_pick_iff h) fault).mpr hPlan

end Plan

/-- No machine of a run has a say in what another one gets. -/
structure Apart (store : Store) : Prop where
  node : ∀ (other : Store) (spec : Spec), other.fallback = store.fallback →
    other.document.dig ["boxes", spec.name] = store.document.dig ["boxes", spec.name] →
    spec.resolve other = spec.resolve store
  descriptor : ∀ (specs others : List Spec) (i j : Nat) (spec : Spec),
    specs[i]? = some spec → others[j]? = some spec →
    ∃ machine, (resolveAll store specs)[i]? = some machine ∧
      (resolveAll store others)[j]? = some machine
  definition : ∀ (specs others : List Spec) (i j : Nat) (spec : Spec),
    specs[i]? = some spec → others[j]? = some spec → ∀ guests strangers,
    plan store (resolveAll store specs) = .ok guests →
    plan store (resolveAll store others) = .ok strangers →
    ∃ guest, guests[i]? = some guest ∧ strangers[j]? = some guest
  order : ∀ (specs : List Spec) (positions : List Nat),
    positions.Perm (List.range specs.length) →
    resolveAll store (pick positions specs) = pick positions (resolveAll store specs) ∧
      plan store (resolveAll store (pick positions specs)) =
        (plan store (resolveAll store specs)).map (pick positions)
  fault : ∀ specs others : List Spec, (∀ spec, spec ∈ specs ↔ spec ∈ others) → ∀ fault,
    plan store (resolveAll store specs) = .error fault ↔
      plan store (resolveAll store others) = .error fault

theorem getElem?_resolveAll {specs : List Spec} {i : Nat} {spec : Spec}
    (h : specs[i]? = some spec) :
    (resolveAll store specs)[i]? = some (spec.resolve store) := by
  rw [resolveAll, List.getElem?_map, h, Option.map_some]

theorem resolveAll_pick (store : Store) (positions : List Nat) (specs : List Spec) :
    resolveAll store (pick positions specs) = pick positions (resolveAll store specs) :=
  (pick_map (Spec.resolve store) positions specs).symm

theorem apart_machines (store : Store) : Apart store where
  node other spec hFallback hNode := resolve_congr hFallback hNode
  descriptor specs others i j spec hSpec hOther :=
    ⟨spec.resolve store, getElem?_resolveAll hSpec, getElem?_resolveAll hOther⟩
  definition specs others i j spec hSpec hOther guests strangers hGuests hStrangers := by
    obtain ⟨guest, hGuest, hDefine⟩ := getElem?_plan hGuests (getElem?_resolveAll hSpec)
    obtain ⟨stranger, hStranger, hSame⟩ := getElem?_plan hStrangers (getElem?_resolveAll hOther)
    cases hDefine.symm.trans hSame
    exact ⟨guest, hGuest, hStranger⟩
  order specs positions h := by
    have hMachines : positions.Perm (List.range (resolveAll store specs).length) := by
      rwa [resolveAll, List.length_map]
    exact ⟨resolveAll_pick store positions specs, by rw [resolveAll_pick, plan_pick hMachines]⟩
  fault specs others h fault := by
    refine plan_eq_error_congr (fun machine => ?_) fault
    simp only [resolveAll, List.mem_map, h]

/-- A machine with an odd name, beside whose node the documents have nothing in common. -/
theorem apart_odd_name :
    let spec : Spec := ⟨"a.b/\"c", .linux, "c.test", "10.0.0.3", none, none, none⟩
    let own : String × Json := (spec.name, .object [("memory", .natural 512)])
    let left : Document := ⟨.object [("boxes", .object [own]), ("folders", .null)]⟩
    let right : Document := ⟨.object [("boxes", .object [("a", .string "b"), own])]⟩
    left.dig ["boxes", spec.name] = right.dig ["boxes", spec.name] ∧
      spec.resolve ⟨left, .standard, .empty⟩ = spec.resolve ⟨right, .standard, .empty⟩ := by
  intro spec own left right
  have hNode : left.dig ["boxes", spec.name] = right.dig ["boxes", spec.name] := rfl
  exact ⟨hNode, (apart_machines ⟨right, .standard, .empty⟩).node ⟨left, .standard, .empty⟩ spec rfl
    hNode⟩

end Guest

end Fleet
