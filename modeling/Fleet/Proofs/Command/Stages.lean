import Fleet.Proofs.Command.Reload
import Fleet.Proofs.Guest.Plan

/-!
# The stages of a run

A run goes through at most four stages, and its command decides which. What it takes for a stage to
fail is stated for the stage alone, from what the run is given: of the stages before it only the
settings matter to the document and to writing themselves, and the manifest to the folders of a
plan. Folder variables are read token by token, one variable after another, and the first malformed
token is the fault. A run fails exactly if one of its stages does, and with the fault of the first
one that does.
-/
namespace Fleet

inductive Stage where
  | settings
  | document
  | manifest
  | folders
  | serialization
  deriving DecidableEq, Repr

namespace Command

/-- The stages after the first two, which all commands have in common. -/
def ownStages : Command → List Stage
  | machines .. => [.manifest]
  | folders .. => [.folders]
  | plan _ => [.manifest, .folders]
  | settings => [.serialization]

def stages (command : Command) : List Stage := .settings :: .document :: command.ownStages

/-- The variables that a command reads shared folders from, in order. -/
def folderVariables : Command → List String
  | folders category variableName _ => [variableName.getD (Folders.defaultVariable category)]
  | plan _ => Folders.Method.all.map Folders.Method.environmentVariable
  | machines .. | settings => []

end Command

namespace Environment

/-- Folders are not switched off, and the fault is about the first token that is no mount in the
first variable that has one. -/
structure FolderFault (env : Environment) (names : List String)
    (fault : Folders.MalformedMount) : Prop where
  enabled : env.get? disableFolders ≠ some "yes"
  name : FirstBreach env.IsSound names fault.variableName
  token : env.FirstMalformed fault.variableName fault.token.toList

end Environment

/-- All that a run is given. -/
structure Run where
  host : Host
  env : Environment
  invocation : Invocation

namespace Run

def answer (run : Run) : Except RunFault String := run.invocation.output run.host run.env

def stages (run : Run) : List Stage := run.invocation.command.stages

def loadSettings (run : Run) : Except SettingsFault Settings :=
  run.invocation.loadSettings run.host run.env

/-- A path of the run, seen from its workspace. -/
def resolve (run : Run) (path : Path) : Path := Path.join run.invocation.workspace path

/-- The path of the document as the settings are printed with. -/
def document (run : Run) (settings : Settings) : Path :=
  run.invocation.document.getD settings.document

def documentPath (run : Run) (settings : Settings) : Path := run.resolve (run.document settings)

def loadManifest (run : Run) (path : Path) : Except ManifestFault Manifest :=
  Manifest.load run.host.files (run.resolve path)

/-- A plan asks for shared folders only if its manifest lists a Linux machine. -/
def AsksForFolders (run : Run) : Prop :=
  ∀ path, run.invocation.command = .plan path →
    ∃ manifest, run.loadManifest path = .ok manifest ∧ ∃ spec ∈ manifest.machines, spec.kind = .linux

inductive Fails (run : Run) : Stage → RunFault → Prop where
  | settings {reason : SettingsFault} :
      run.loadSettings = .error reason → Fails run .settings (.settings reason)
  | document {settings : Settings} {reason : DocumentFault} :
      run.loadSettings = .ok settings →
      Document.load run.host.files (run.documentPath settings) = .error reason →
      Fails run .document (.document reason)
  | manifest {path : Path} {reason : ManifestFault} :
      run.invocation.command.manifest? = some path → run.loadManifest path = .error reason →
      Fails run .manifest (.manifest reason)
  | folders {fault : Folders.MalformedMount} :
      run.AsksForFolders →
      run.env.FolderFault run.invocation.command.folderVariables fault →
      Fails run .folders (.document (.mount fault))
  | serialization {settings : Settings} :
      run.invocation.command = .settings → run.loadSettings = .ok settings →
      (run.document settings).text? = none →
      Fails run .serialization (.serialization .notText)

def Passes (run : Run) (stage : Stage) : Prop := ∀ fault, ¬run.Fails stage fault

/-- Of the stages in the list, the first that does not pass fails with the fault. -/
def FailsFirst (run : Run) (stages : List Stage) (fault : RunFault) : Prop :=
  ∃ stage, FirstBreach run.Passes stages stage ∧ run.Fails stage fault

variable {run : Run} {fault : RunFault}

theorem failsFirst_nil : ¬run.FailsFirst [] fault := by
  rintro ⟨stage, hStage, -⟩
  exact not_firstBreach_nil stage hStage

theorem failsFirst_cons {first : Stage} {rest : List Stage} :
    run.FailsFirst (first :: rest) fault ↔
      run.Fails first fault ∨ run.Passes first ∧ run.FailsFirst rest fault := by
  constructor
  · rintro ⟨stage, hStage, hFails⟩
    rcases firstBreach_cons_iff.mp hStage with ⟨-, rfl⟩ | ⟨hFirst, hRest⟩
    · exact .inl hFails
    · exact .inr ⟨hFirst, stage, hRest, hFails⟩
  · rintro (hFails | ⟨hFirst, stage, hRest, hFails⟩)
    · have hBreach : ¬run.Passes first := fun hPasses => hPasses fault hFails
      exact ⟨first, firstBreach_cons_iff.mpr (.inl ⟨hBreach, rfl⟩), hFails⟩
    · exact ⟨stage, firstBreach_cons_iff.mpr (.inr ⟨hFirst, hRest⟩), hFails⟩

section Loading

theorem fails_settings_iff :
    run.Fails .settings fault ↔
      ∃ reason, run.loadSettings = .error reason ∧ .settings reason = fault := by
  constructor
  · intro hFails
    cases hFails with
    | settings hReason => exact ⟨_, hReason, rfl⟩
  · rintro ⟨reason, hReason, rfl⟩
    exact .settings hReason

theorem passes_settings_iff :
    run.Passes .settings ↔ ∃ settings, run.loadSettings = .ok settings := by
  simp only [Passes, fails_settings_iff]
  cases run.loadSettings with
  | error reason => simp
  | ok settings => simp

theorem fails_document_iff {settings : Settings} (hSettings : run.loadSettings = .ok settings) :
    run.Fails .document fault ↔
      ∃ reason, Document.load run.host.files (run.documentPath settings) = .error reason ∧
        .document reason = fault := by
  constructor
  · intro hFails
    cases hFails with
    | document hOther hReason =>
      cases hSettings.symm.trans hOther
      exact ⟨_, hReason, rfl⟩
  · rintro ⟨reason, hReason, rfl⟩
    exact .document hSettings hReason

theorem load_of_settings {settings : Settings} (hSettings : run.loadSettings = .ok settings) :
    run.invocation.load run.host run.env =
      ((Document.load run.host.files (run.documentPath settings)).map fun document =>
        ⟨run.invocation.workspace, run.invocation.overrideDocument settings,
          ⟨document, settings.boxes, run.env⟩⟩).mapError .document := by
  rw [loadSettings] at hSettings
  rw [Invocation.load, hSettings]
  simp only [Except.mapError, bind, Except.bind, Invocation.loadStore, Store.load]
  change _ = Except.mapError _ (Except.map _ (Document.load run.host.files
    ((run.invocation.overrideDocument settings).documentPath run.invocation.workspace)))
  cases Document.load run.host.files
    ((run.invocation.overrideDocument settings).documentPath run.invocation.workspace) <;> rfl

theorem load_eq_error_iff :
    run.invocation.load run.host run.env = .error fault ↔
      run.Fails .settings fault ∨ run.Passes .settings ∧ run.Fails .document fault := by
  rw [passes_settings_iff, fails_settings_iff]
  cases hSettings : run.loadSettings with
  | error reason =>
    rw [loadSettings] at hSettings
    simp [Invocation.load, hSettings, Except.mapError, bind, Except.bind]
  | ok settings =>
    rw [load_of_settings hSettings, fails_document_iff hSettings, Except.mapError_eq_error_iff]
    simp

theorem passes_of_load {context : Context}
    (h : run.invocation.load run.host run.env = .ok context) :
    run.Passes .settings ∧ run.Passes .document := by
  have hNo : ∀ fault, run.invocation.load run.host run.env ≠ .error fault := by
    intro fault hError
    cases h.symm.trans hError
  have hSettings : run.Passes .settings := by
    intro fault hFails
    exact hNo fault (load_eq_error_iff.mpr (.inl hFails))
  refine ⟨hSettings, fun fault hFails => ?_⟩
  exact hNo fault (load_eq_error_iff.mpr (.inr ⟨hSettings, hFails⟩))

theorem context_of_load {context : Context}
    (h : run.invocation.load run.host run.env = .ok context) :
    context.workspace = run.invocation.workspace ∧ context.store.env = run.env ∧
      ∃ settings, run.loadSettings = .ok settings ∧
        context.settings.document = run.document settings := by
  obtain ⟨settings, hSettings⟩ := passes_settings_iff.mp (passes_of_load h).1
  rw [load_of_settings hSettings, Except.mapError_eq_ok_iff, Except.map_eq_ok_iff] at h
  obtain ⟨document, -, rfl⟩ := h
  exact ⟨rfl, rfl, settings, hSettings, rfl⟩

end Loading

end Run

section Folders
open Folders
variable {store : Store} {names : List String} {fault : MalformedMount}

theorem linuxSetup_fails_iff :
    Guest.linuxSetup store = .error fault ↔
      store.env.FolderFault (Method.all.map Method.environmentVariable) fault := by
  rw [Guest.linuxSetup_eq_error_iff]
  constructor
  · rintro ⟨hEnabled, method, hMethod, hName, hToken⟩
    exact ⟨hEnabled, firstBreach_map_iff.mpr ⟨method, hMethod, hName.symm⟩, hName ▸ hToken⟩
  · rintro ⟨hEnabled, hName, hToken⟩
    obtain ⟨method, hMethod, hName⟩ := firstBreach_map_iff.mp hName
    exact ⟨hEnabled, method, hMethod, hName.symm, hName ▸ hToken⟩

end Folders

namespace Run
variable {run : Run} {fault : RunFault}

section Executing
variable {context : Context}

theorem loadManifest_of_load (h : run.invocation.load run.host run.env = .ok context)
    (path : Path) : context.loadManifest run.host.files path = run.loadManifest path := by
  rw [Context.loadManifest, (context_of_load h).1]
  rfl

theorem fails_manifest_iff {path : Path} (hPath : run.invocation.command.manifest? = some path) :
    run.Fails .manifest fault ↔
      ∃ reason, run.loadManifest path = .error reason ∧ .manifest reason = fault := by
  constructor
  · intro hFails
    cases hFails with
    | manifest hOther hReason =>
      cases hPath.symm.trans hOther
      exact ⟨_, hReason, rfl⟩
  · rintro ⟨reason, hReason, rfl⟩
    exact .manifest hPath hReason

theorem fails_folders_iff :
    run.Fails .folders fault ↔ run.AsksForFolders ∧
      ∃ mount, run.env.FolderFault run.invocation.command.folderVariables mount ∧
        .document (.mount mount) = fault := by
  constructor
  · intro hFails
    cases hFails with
    | folders hAsks hMount => exact ⟨hAsks, _, hMount, rfl⟩
  · rintro ⟨hAsks, mount, hMount, rfl⟩
    exact .folders hAsks hMount

theorem machines_of_load (h : run.invocation.load run.host run.env = .ok context) (path : Path) :
    context.machines run.host.files path =
      ((run.loadManifest path).map fun manifest =>
        Machine.resolveAll context.store manifest.machines).mapError .manifest := by
  unfold Context.machines
  rw [loadManifest_of_load h]
  cases run.loadManifest path with
  | error reason => rfl
  | ok manifest => rfl

theorem machines_eq_error_iff (h : run.invocation.load run.host run.env = .ok context)
    {path : Path} (hPath : run.invocation.command.manifest? = some path) :
    context.machines run.host.files path = .error fault ↔ run.Fails .manifest fault := by
  rw [machines_of_load h, fails_manifest_iff hPath, Except.mapError_eq_error_iff]
  simp only [Except.map_eq_error_iff]

theorem mem_resolveAll_linux_iff (store : Store) {specs : List Machine.Spec} :
    (∃ machine ∈ Machine.resolveAll store specs, machine.kind = .linux) ↔
      ∃ spec ∈ specs, spec.kind = .linux := by
  simp [Machine.resolveAll, Machine.Spec.resolve]

theorem passes_manifest_iff {path : Path}
    (hPath : run.invocation.command.manifest? = some path) :
    run.Passes .manifest ↔ ∃ manifest, run.loadManifest path = .ok manifest := by
  simp only [Passes, fails_manifest_iff hPath]
  generalize run.loadManifest path = loaded
  cases loaded with
  | error reason => simp
  | ok manifest => simp

theorem fails_folders_plan_iff {path : Path} (hCommand : run.invocation.command = .plan path) :
    run.Fails .folders fault ↔
      (∃ manifest, run.loadManifest path = .ok manifest ∧
        ∃ spec ∈ manifest.machines, spec.kind = .linux) ∧
      ∃ mount, run.env.FolderFault (Folders.Method.all.map Folders.Method.environmentVariable)
        mount ∧ .document (.mount mount) = fault := by
  simp only [fails_folders_iff, AsksForFolders, hCommand, Command.plan.injEq, forall_eq',
    Command.folderVariables]

theorem plan_eq_error_iff (h : run.invocation.load run.host run.env = .ok context)
    {path : Path} (hCommand : run.invocation.command = .plan path) :
    context.plan run.host.files path = .error fault ↔
      run.FailsFirst [.manifest, .folders] fault := by
  have hPath : run.invocation.command.manifest? = some path := by rw [hCommand, Command.manifest?]
  rw [Context.plan, Except.bind_eq_error_iff, failsFirst_cons, failsFirst_cons,
    machines_eq_error_iff h hPath, machines_of_load h, passes_manifest_iff hPath,
    fails_folders_plan_iff hCommand, ← (context_of_load h).2.1]
  simp only [Except.mapError_eq_error_iff, Except.mapError_eq_ok_iff, Except.map_eq_ok_iff,
    Guest.plan_eq_error_iff, linuxSetup_fails_iff, failsFirst_nil, and_false, or_false]
  refine or_congr_right ?_
  constructor
  · rintro ⟨_, ⟨manifest, hManifest, rfl⟩, mount, ⟨hLinux, hMount⟩, hFault⟩
    have hListed := (mem_resolveAll_linux_iff context.store).mp hLinux
    exact ⟨⟨manifest, hManifest⟩, ⟨manifest, hManifest, hListed⟩, mount, hMount, hFault⟩
  · rintro ⟨-, ⟨manifest, hManifest, hListed⟩, mount, hMount, hFault⟩
    have hLinux := (mem_resolveAll_linux_iff context.store).mpr hListed
    exact ⟨_, ⟨manifest, hManifest, rfl⟩, mount, ⟨hLinux, hMount⟩, hFault⟩

end Executing

end Run

end Fleet
