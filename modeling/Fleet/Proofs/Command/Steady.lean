import Fleet.Proofs.Command.Stages
import Fleet.Proofs.Settings.Parts

/-!
# What depends on the order of tables

The tables that settings are loaded from are gone through in an order that nobody chooses, and it may
be another one in every run. A run is steady if the order has no say in its settings, but for their
logging part: in every order they are found alike, or missed with the same fault. A run whose layers
are well shaped is steady.
-/
namespace Fleet.Run
open Settings

/-- The run with its tables gone through in this order. -/
def inOrder (run : Run) (order : Order) : Run :=
  { run with host := { run.host with order := order } }

/-- In every order the settings are the same, but for logging. -/
def Steady (run : Run) : Prop :=
  ∀ order, (run.inOrder order).loadSettings.map unlogged = run.loadSettings.map unlogged

/-- The paths where the settings of a run are looked for. -/
def settingsPaths (run : Run) : List Path :=
  match run.invocation.settings with
  | some path => [path]
  | none =>
    [Settings.globalFile run.host run.env, Settings.workspaceFile run.invocation.workspace]

/-- The settings of the run are looked for in well-shaped layers only. -/
structure Shaped (run : Run) : Prop where
  env : EnvShaped .texts run.env
  files : ∀ path ∈ run.settingsPaths, ∃ held, Holds run.host path held ∧
    ∀ layer ∈ held, WellShaped .texts layer

/-- The layers of the files that the settings of the run come from, lowest first. -/
def fileLayers (run : Run) : Except SettingsFault (List Members) :=
  run.invocation.fileLayers run.host run.env

/-- All layers of the settings of the run, lowest first. -/
def layers (run : Run) : Except SettingsFault (List Members) :=
  run.invocation.layers run.host run.env

/-- What the settings of the run say about logging, if they are found, can be read. -/
def ReadsLogging (run : Run) : Prop :=
  ∀ layers, run.layers = .ok layers → LoggingReads (gathered run.host.order layers)

instance (run : Run) : Decidable run.ReadsLogging :=
  decidable_of_iff (run.layers.toOption.all fun layers =>
    decide (LoggingReads (gathered run.host.order layers)))
    (by cases hLayers : run.layers <;> simp [ReadsLogging, hLayers, Except.toOption])

variable {run : Run} {order : Order}

theorem loadSettings_eq (run : Run) : run.loadSettings = run.layers >>= ofLayers run.host.order :=
  Invocation.loadSettings_eq run.host run.env run.invocation

/-- No order has a say in the layers of the files. -/
theorem layers_inOrder (run : Run) (order : Order) :
    (run.inOrder order).layers =
      run.fileLayers.map fun files => files ++ [environmentLayer order run.env] := rfl

/-- The files of a well-shaped run cannot be found, or they are well shaped. -/
theorem Shaped.fileLayers_eq (h : run.Shaped) :
    (∃ fault, run.fileLayers = .error fault) ∨
      ∃ files, run.fileLayers = .ok files ∧
        ∀ layer ∈ files, WellShaped .texts layer ∧ Distinct (.table layer) := by
  have hFiles := h.files
  simp only [settingsPaths] at hFiles
  unfold fileLayers Invocation.fileLayers
  cases hSettings : run.invocation.settings with
  | some path =>
    rw [hSettings] at hFiles
    obtain ⟨held, hHolds, hShaped⟩ := hFiles path List.mem_cons_self
    have hLayers := shaped_of_holds hHolds hShaped
    cases hHolds with
    | absent hAbsent => exact .inl ⟨.noFile path, by simp [hAbsent]⟩
    | present hPresent hLayer => exact .inr ⟨_, by simp [hPresent, hLayer, Except.map], hLayers⟩
  | none =>
    rw [hSettings] at hFiles
    obtain ⟨global, hGlobal, hGlobalShaped⟩ := hFiles _ List.mem_cons_self
    obtain ⟨ofWorkspace, hWorkspace, hWorkspaceShaped⟩ :=
      hFiles _ (List.mem_cons_of_mem _ List.mem_cons_self)
    refine .inr ⟨global.toList ++ ofWorkspace.toList, ?_, fun layer hLayer => ?_⟩
    · simp only [optionalLayer_of_holds hGlobal, optionalLayer_of_holds hWorkspace]
      rfl
    · rcases List.mem_append.mp hLayer with hLayer | hLayer
      · exact shaped_of_holds hGlobal hGlobalShaped layer hLayer
      · exact shaped_of_holds hWorkspace hWorkspaceShaped layer hLayer

/-- The settings of a well-shaped run are missed for its files, or they are loaded in every order. -/
theorem Shaped.loadSettings_eq (h : run.Shaped) :
    (∃ fault, ∀ order, (run.inOrder order).layers = .error fault) ∨
      ∃ sources, ∀ order, ∃ layers settings, (run.inOrder order).layers = .ok layers ∧
        ofLayers order layers = .ok settings ∧ PerField sources settings := by
  rcases h.fileLayers_eq with ⟨fault, hFault⟩ | ⟨files, hFound, hFiles⟩
  · exact .inl ⟨fault, fun order => by rw [layers_inOrder, hFault]; rfl⟩
  · refine .inr ⟨envSays run.env :: files.reverse.map fileSays, fun order => ?_⟩
    obtain ⟨settings, hSettings, hFields⟩ := ofLayers_perField order h.env hFiles
    exact ⟨_, settings, by rw [layers_inOrder, hFound]; rfl, hSettings, hFields⟩

/-- Settings that have the same fields are the same but for logging. -/
theorem unlogged_eq_of_fields {left right : Settings}
    (h : ∀ field : Field, field.value left = field.value right) :
    left.unlogged = right.unlogged := by
  have hLinux : left.boxes.linux = right.boxes.linux := FieldValue.text.inj (h .linux)
  have hWindows : left.boxes.windows = right.boxes.windows := FieldValue.text.inj (h .windows)
  refine unlogged_eq_iff.mpr ⟨FieldValue.path.inj (h .document), ?_⟩
  cases hLeft : left.boxes
  cases hRight : right.boxes
  rw [hLeft, hRight] at hLinux hWindows
  cases hLinux
  cases hWindows
  rfl

/-- Every field of well-shaped layers comes from the highest one that sets it, in any order. -/
theorem Shaped.steady (h : run.Shaped) : run.Steady := by
  intro order
  have hRun : run = run.inOrder run.host.order := rfl
  rcases h.loadSettings_eq with ⟨fault, hFault⟩ | ⟨sources, hFound⟩
  · rw [Run.loadSettings_eq, hFault, Run.loadSettings_eq, hRun, hFault]
    rfl
  · obtain ⟨layers, settings, hLayers, hSettings, hFields⟩ := hFound order
    obtain ⟨others, other, hOthers, hOther, hOtherFields⟩ := hFound run.host.order
    rw [← hRun] at hOthers
    rw [Run.loadSettings_eq, hLayers, Run.loadSettings_eq, hOthers]
    change (ofLayers order layers).map unlogged = (ofLayers run.host.order others).map unlogged
    rw [hSettings, hOther]
    exact congrArg Except.ok (unlogged_eq_of_fields fun field =>
      (hFields field).trans (hOtherFields field).symm)

theorem Shaped.readsLogging (h : run.Shaped) (order : Order) :
    (run.inOrder order).ReadsLogging := by
  intro layers hLayers
  rcases h.loadSettings_eq with ⟨fault, hFault⟩ | ⟨sources, hFound⟩
  · cases (hFault order).symm.trans hLayers
  · obtain ⟨others, settings, hOthers, hSettings, -⟩ := hFound order
    cases hOthers.symm.trans hLayers
    exact loggingReads_of_ofLayers hSettings

end Fleet.Run
