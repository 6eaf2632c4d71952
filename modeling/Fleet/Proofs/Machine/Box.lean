import Fleet.Command.Run
import Fleet.Proofs.Guest.Plan
import Fleet.Proofs.Machine.Resolution

/-!
# Machines without a box

A box is looked for in the specification, in the document and in the fallback boxes of the settings,
in this order. In the first two an empty box counts as none. The last one has nothing behind it: a
fallback box that some layer of the settings leaves empty is handed on as it is. So a run reports a
machine without a box exactly if nothing names its box and the fallback box of its kind is empty.
-/
namespace Fleet

namespace Machine

/-- Neither the specification nor the document names a box for the machine. -/
structure Unnamed (store : Store) (spec : Spec) : Prop where
  given : IsOpen spec.box
  listed : ∀ box, store.document.root.Reaches ["boxes", spec.name, "name"] (.string box) → box = ""

theorem box_resolve_eq_empty_iff {store : Store} {spec : Spec} :
    (spec.resolve store).box = "" ↔
      Unnamed store spec ∧ store.fallback.ofKind spec.kind = "" := by
  have hSettled := settled_resolve store spec
  constructor
  · intro hEmpty
    have hGiven : IsOpen spec.box := by
      cases hBox : spec.box with
      | none => exact .inl rfl
      | some box =>
        refine .inr (congrArg some ?_)
        by_contra hNe
        exact hNe ((hSettled.box_given box hBox hNe).symm.trans hEmpty)
    have hListed : ∀ box,
        store.document.root.Reaches ["boxes", spec.name, "name"] (.string box) → box = "" := by
      intro box hReach
      by_contra hNe
      exact hNe ((hSettled.box_listed hGiven box hNe hReach).symm.trans hEmpty)
    exact ⟨⟨hGiven, hListed⟩, (hSettled.box_fallback hGiven hListed).symm.trans hEmpty⟩
  · rintro ⟨hUnnamed, hFallback⟩
    rw [hSettled.box_fallback hUnnamed.given hUnnamed.listed, hFallback]

end Machine

namespace Context
variable {host : Host} {env : Environment} {invocation : Invocation} {context : Context}
  {files : Files} {path : Path} {machines : List Machine.Descriptor}

/-- The fallback boxes of a store are those of the settings, whichever layer they come from. -/
theorem fallback_of_load (h : invocation.load host env = .ok context) :
    context.store.fallback = context.settings.boxes := by
  obtain ⟨settings, -, hLoad⟩ := Except.bind_eq_ok_iff.mp h
  obtain ⟨store, hStore, hContext⟩ := Except.bind_eq_ok_iff.mp hLoad
  rw [Except.mapError_eq_ok_iff, Invocation.loadStore, Store.load, Except.map_eq_ok_iff] at hStore
  obtain ⟨document, -, rfl⟩ := hStore
  cases hContext
  rfl

theorem machines_eq_ok_iff :
    context.machines files path = .ok machines ↔
      ∃ manifest, context.loadManifest files path = .ok manifest ∧
        machines = Machine.resolveAll context.store manifest.machines := by
  unfold Context.machines
  cases context.loadManifest files path with
  | error reason => simp
  | ok manifest => simp [eq_comm]

theorem exists_boxless_machine_iff {specs : List Machine.Spec} :
    (∃ machine ∈ Machine.resolveAll context.store specs, machine.box = "") ↔
      ∃ spec ∈ specs, Machine.Unnamed context.store spec ∧
        context.store.fallback.ofKind spec.kind = "" := by
  simp [Machine.resolveAll, Machine.box_resolve_eq_empty_iff]

theorem boxes_of_plan {guests : List Guest.Definition}
    (h : context.plan files path = .ok guests) :
    ∃ machines, context.machines files path = .ok machines ∧
      guests.map Guest.Definition.box = machines.map Machine.Descriptor.box := by
  obtain ⟨machines, hMachines, hPlan⟩ := Except.bind_eq_ok_iff.mp h
  rw [Except.mapError_eq_ok_iff] at hPlan
  exact ⟨machines, hMachines, Guest.map_of_plan_eq_ok (fun _ _ hGuest => hGuest.box.symm) hPlan⟩

/-- A run reports a machine without a box, or plans a guest without one, exactly if nothing names
the box of some machine of its manifest and the settings leave the fallback of its kind empty. -/
theorem boxless_iff (hLoad : invocation.load host env = .ok context)
    (hMachines : context.machines host.files path = .ok machines) :
    ∃ manifest, context.loadManifest host.files path = .ok manifest ∧
      ((∃ machine ∈ machines, machine.box = "") ↔
        ∃ spec ∈ manifest.machines, Machine.Unnamed context.store spec ∧
          context.settings.boxes.ofKind spec.kind = "") ∧
      ∀ guests, context.plan host.files path = .ok guests →
        ((∃ guest ∈ guests, guest.box = "") ↔ ∃ machine ∈ machines, machine.box = "") := by
  obtain ⟨manifest, hManifest, rfl⟩ := machines_eq_ok_iff.mp hMachines
  refine ⟨manifest, hManifest, ?_, ?_⟩
  · rw [exists_boxless_machine_iff, fallback_of_load hLoad]
  · intro guests hPlan
    obtain ⟨planned, hPlanned, hBoxes⟩ := boxes_of_plan hPlan
    cases hMachines.symm.trans hPlanned
    have hMem : "" ∈ guests.map Guest.Definition.box ↔
        "" ∈ (Machine.resolveAll context.store manifest.machines).map Machine.Descriptor.box := by
      rw [hBoxes]
    simpa only [List.mem_map] using hMem

/-- Where the settings have a fallback box for either kind, no machine goes without a box. -/
theorem box_ne_empty (hLoad : invocation.load host env = .ok context)
    (hFallback : ∀ kind, context.settings.boxes.ofKind kind ≠ "")
    (hMachines : context.machines host.files path = .ok machines) :
    ∀ machine ∈ machines, machine.box ≠ "" := by
  obtain ⟨manifest, -, rfl⟩ := machines_eq_ok_iff.mp hMachines
  intro machine hMachine hEmpty
  obtain ⟨spec, -, -, hNone⟩ := exists_boxless_machine_iff.mp ⟨machine, hMachine, hEmpty⟩
  exact hFallback spec.kind (fallback_of_load hLoad ▸ hNone)

section Cases

def clientHost : Host where
  files := ⟨["work"], [(["work", "machines.toml"], .file <| String.toUTF8
    "[[machine]]\nname = 'client'\nkind = 'linux'\nhostname = 'c.test'\nip = '10.0.0.1'\n"
    |>.data.toList)]⟩
  home := "home"

def clientRun : Invocation where
  command := .machines "machines.toml" .json
  workspace := "."
  settings := none
  document := none
  verbose := false
  quiet := false
  logLevel := none
  logFormat := none
  logOutput := none
  logFile := none

/-- A variable that is set to the empty text still counts as set. -/
def emptyBoxEnv : Environment := .ofList [("MACHINE_CONFIG_BOXES__LINUX", "")]

theorem exists_boxless_run : ∃ context machines,
    clientRun.load clientHost emptyBoxEnv = .ok context ∧
      context.machines clientHost.files "machines.toml" = .ok machines ∧
      ∃ machine ∈ machines, machine.box = "" := by
  have hBoxes : (clientRun.load clientHost emptyBoxEnv >>= fun context =>
      (context.machines clientHost.files "machines.toml").map
        (List.map Machine.Descriptor.box)).toOption = some [""] := by
    decide +kernel
  obtain ⟨context, hLoad, hMap⟩ := Except.bind_eq_ok_iff.mp (Except.eq_ok_of_toOption hBoxes)
  obtain ⟨machines, hMachines, hEmpty⟩ := Except.map_eq_ok_iff.mp hMap
  refine ⟨context, machines, hLoad, hMachines, ?_⟩
  rw [← List.mem_map, hEmpty]
  exact List.mem_singleton_self ""

theorem boxless_iff_client : ∃ context manifest,
    clientRun.load clientHost emptyBoxEnv = .ok context ∧
      context.loadManifest clientHost.files "machines.toml" = .ok manifest ∧
      ∃ spec ∈ manifest.machines, Machine.Unnamed context.store spec ∧
        context.settings.boxes.ofKind spec.kind = "" := by
  obtain ⟨context, machines, hLoad, hMachines, hBoxless⟩ := exists_boxless_run
  obtain ⟨manifest, hManifest, hIff, -⟩ := boxless_iff hLoad hMachines
  exact ⟨context, manifest, hLoad, hManifest, hIff.mp hBoxless⟩

/-- Not every run that succeeds gives each machine a box. -/
theorem not_always_boxed :
    ¬∀ (host : Host) (env : Environment) (invocation : Invocation) (context : Context)
      (path : Path) (machines : List Machine.Descriptor),
      invocation.load host env = .ok context → context.machines host.files path = .ok machines →
        ∀ machine ∈ machines, machine.box ≠ "" := by
  intro hAlways
  obtain ⟨context, machines, hLoad, hMachines, machine, hMachine, hEmpty⟩ := exists_boxless_run
  exact hAlways _ _ _ _ _ _ hLoad hMachines machine hMachine hEmpty

end Cases

end Context

end Fleet
