import Fleet.Machine.Resolve
import Fleet.Manifest
import Fleet.Proofs.Guest.Plan

/-!
# What a plan looks at in the environment

A machine is resolved without a look at the environment. Planning asks whether folders are switched
off and, unless they are, for three folder variables; of the fourth variable it asks only whether
it is set. `AgreesForPlan` says this of two environments, and no run of the planner can tell two
such environments apart, whether it ends in a plan or in a fault.
-/
namespace Fleet

/-- The environments give the same answers to all that planning may ask. -/
structure Environment.AgreesForPlan (left right : Environment) : Prop where
  switch : left.get? disableFolders = some "yes" ↔ right.get? disableFolders = some "yes"
  folders : left.get? disableFolders ≠ some "yes" →
    ∀ name ∈ [sshfsFolders, nfsFolders, rsyncFolders], left.get? name = right.get? name
  bashrc : (∃ value, left.get? bashrc = some value) ↔ ∃ value, right.get? bashrc = some value

namespace Store
variable {left right : Store} {category variableName : String}

/-- Folders depend on the document, on the switch, and, unless it is on, on one variable. -/
theorem folders_congr (hDocument : left.document = right.document)
    (hSwitch : left.Disabled ↔ right.Disabled)
    (hVariable : ¬left.Disabled → left.env.get? variableName = right.env.get? variableName) :
    left.folders category variableName = right.folders category variableName := by
  by_cases hOn : left.Disabled
  · rw [folders_of_disabled hOn, folders_of_disabled (hSwitch.mp hOn)]
  · have hTokens : left.overrideTokens variableName = right.overrideTokens variableName := by
      rw [overrideTokens, overrideTokens, hVariable hOn]
    rw [folders_of_enabled hOn, folders_of_enabled (fun h => hOn (hSwitch.mpr h)), hTokens,
      hDocument]

end Store

namespace Guest
open Folders
variable {left right : Store}

theorem syncedFolders_congr {methods : List Method}
    (h : ∀ method ∈ methods, left.foldersFor method = right.foldersFor method) :
    syncedFolders left methods = syncedFolders right methods := by
  induction methods with
  | nil => rfl
  | cons method rest ih =>
    obtain ⟨hFirst, hRest⟩ := List.forall_mem_cons.mp h
    rw [syncedFolders_cons, syncedFolders_cons, syncedFoldersOf, syncedFoldersOf, hFirst, ih hRest]

theorem linuxSetup_congr
    (hFolders : ∀ method ∈ Method.all, left.foldersFor method = right.foldersFor method)
    (hBashrc : left.env.contains Environment.bashrc = right.env.contains Environment.bashrc) :
    linuxSetup left = linuxSetup right := by
  rw [linuxSetup, linuxSetup, syncedFolders_congr hFolders, hBashrc]

/-- A plan knows its store by the set up of Linux guests alone. -/
theorem plan_congr (h : linuxSetup left = linuxSetup right)
    (machines : List Machine.Descriptor) : plan left machines = plan right machines := by
  induction machines with
  | nil => rfl
  | cons machine rest ih =>
    have hDefine : define left machine = define right machine := by
      rw [define, define]
      cases machine.kind with
      | linux => rw [setupFor, setupFor, h]
      | windows => rfl
    rw [plan_cons, plan_cons, hDefine, ih]

variable {document : Document} {fallback : Machine.FallbackBoxes}

theorem linuxSetup_eq_of_agreesForPlan {left right : Environment} (h : left.AgreesForPlan right) :
    linuxSetup ⟨document, fallback, left⟩ = linuxSetup ⟨document, fallback, right⟩ := by
  refine linuxSetup_congr ?_ ?_
  · intro method _
    refine Store.folders_congr rfl h.switch fun hOn => h.folders hOn _ ?_
    cases method <;> simp [Method.environmentVariable]
  · rw [Bool.eq_iff_iff, KeyMap.contains_iff, KeyMap.contains_iff]
    exact h.bashrc

/-- Resolving a manifest and planning its guests ends alike in environments that agree for a
plan. -/
theorem plan_eq_of_agreesForPlan (document : Document) (fallback : Machine.FallbackBoxes)
    (manifest : Manifest) {left right : Environment} (h : left.AgreesForPlan right) :
    let machines (env : Environment) :=
      Machine.resolveAll ⟨document, fallback, env⟩ manifest.machines
    machines left = machines right ∧
      plan ⟨document, fallback, left⟩ (machines left) =
        plan ⟨document, fallback, right⟩ (machines right) :=
  ⟨rfl, plan_congr (linuxSetup_eq_of_agreesForPlan h) _⟩

/-- Two environments that forward different texts and differ in what nobody asks for. -/
theorem plan_eq_despite_bashrc :
    let left := KeyMap.ofList [("HOME", "/root"), ("SSSD_TEST_SUITE_BASHRC", "alias ll=ls"),
      ("SSSD_TEST_SUITE_NFS", "/src:/dst broken")]
    let right := KeyMap.ofList [("SSSD_TEST_SUITE_BASHRC", ""), ("SSSD_TEST_SUITE_BOX", "no"),
      ("SSSD_TEST_SUITE_NFS", "/src:/dst broken")]
    let manifest : Manifest := ⟨[⟨"ad", .windows, "ad.test", "10.0.0.1", none, none, none⟩,
      ⟨"ipa", .linux, "ipa.test", "10.0.0.2", none, none, none⟩]⟩
    let machines (env : Environment) :=
      Machine.resolveAll ⟨.empty, .standard, env⟩ manifest.machines
    Environment.AgreesForPlan left right ∧ machines left = machines right ∧
      plan ⟨.empty, .standard, left⟩ (machines left) =
        plan ⟨.empty, .standard, right⟩ (machines right) := by
  intro left right manifest machines
  have hAgree : Environment.AgreesForPlan left right := by
    refine ⟨by decide, by decide, ?_⟩
    exact ⟨fun _ => ⟨"", rfl⟩, fun _ => ⟨"alias ll=ls", rfl⟩⟩
  exact ⟨hAgree, plan_eq_of_agreesForPlan .empty .standard manifest hAgree⟩

end Guest

end Fleet
