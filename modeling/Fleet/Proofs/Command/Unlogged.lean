import Fleet.Proofs.Command.Controls

/-!
# Runs that differ in logging alone

Logging is set up by options, by three variables, and by a part of the settings, in files and in the
environment. Two runs of a command that differ in nothing else answer alike, as long as both can
read what their settings say about logging; only the command that prints the settings tells them
apart. What a command itself is told to read is no part of logging, whatever it is called: this goes
for its document, its manifest and the variables that it takes folders from. The order in which the
tables of settings are gone through is no part of logging either, and only steady runs do not depend
on it.
-/
namespace Fleet

/-- The variable is about logging: it is one of three, or it sets a key in the logging part of the
settings. -/
def Environment.IsLogging (name : String) : Prop :=
  name ∈ [Log.filterVariable, Log.formatVariable, Log.outputVariable] ∨
    Settings.variableStart.toList <+: name.toList ∧
      Settings.partName (Settings.variableKey name) = "logging"

instance (name : String) : Decidable (Environment.IsLogging name) :=
  inferInstanceAs (Decidable (_ ∨ _))

/-- There is a file of settings in both places or in neither, and it says the same about everything
but logging. -/
structure Settings.SameButLogging (left right : Host) (path : Path) : Prop where
  present : left.files.contains path = right.files.contains path
  layer : left.files.contains path = true →
    (fileLayer left path).map withoutLogging = (fileLayer right path).map withoutLogging

/-- Machines are resolved without a look at the environment. -/
theorem Machine.resolveAll_env (document : Document) (boxes : FallbackBoxes)
    (left right : Environment) (specs : List Spec) :
    resolveAll ⟨document, boxes, left⟩ specs = resolveAll ⟨document, boxes, right⟩ specs := rfl

namespace Run

/-- Outside logging the runs are told the same. -/
structure SameInputs (left right : Run) : Prop where
  command : left.invocation.command = right.invocation.command
  explicit : left.invocation.settings = right.invocation.settings
  home : left.host.home = right.host.home
  document : AgreeOnDocument left right
  manifest : AgreeOnManifest left right
  files : ∀ path ∈ left.settingsPaths, Settings.SameButLogging left.host right.host path
  env : ∀ name, ¬Environment.IsLogging name → left.env.get? name = right.env.get? name

/-- The runs are also told the same by the variables that they take folders from, and they go through
their tables in the same order, unless no order has a say. -/
structure SameButLogging (left right : Run) : Prop extends SameInputs left right where
  folders : ∀ name ∈ left.invocation.command.folderVariables,
    left.env.get? name = right.env.get? name
  order : left.host.order = right.host.order ∨
    left.Steady ∧ ∀ order, (left.inOrder order).ReadsLogging

variable {left right : Run}

section Layers
open Settings
variable {name : String} {path : Path}

theorem not_isLogging (h : ¬variableStart.toList <+: name.toList) :
    ¬Environment.IsLogging name := by
  rintro (hMem | ⟨hStart, -⟩)
  · have hAll : ∀ name ∈ [Log.filterVariable, Log.formatVariable, Log.outputVariable],
        variableStart.toList <+: name.toList := by decide
    exact h (hAll name hMem)
  · exact h hStart

/-- A variable that sets the document or the boxes is not about logging. -/
theorem not_isLogging_of_partName (hName : isNeeded name = true) {variableName : String}
    (hPart : partName (variableKey variableName) = name) :
    ¬Environment.IsLogging variableName := by
  rintro (hMem | ⟨-, hLogging⟩)
  · have hAll : ∀ name ∈ [Log.filterVariable, Log.formatVariable, Log.outputVariable],
        isNeeded (partName (variableKey name)) = false := by decide +kernel
    rw [← hPart, hAll variableName hMem] at hName
    cases hName
  · rw [← hPart, hLogging] at hName
    exact absurd hName (by decide)

theorem SameInputs.settingsPaths_eq (h : SameInputs left right) :
    left.settingsPaths = right.settingsPaths := by
  have hConfig := h.env "XDG_CONFIG_HOME" (not_isLogging (by decide))
  have hHome := h.env "HOME" (not_isLogging (by decide))
  have hGlobal : globalFile left.host left.env = globalFile right.host right.env := by
    rw [globalFile, configHome, hConfig, hHome, h.home, globalFile, configHome]
  rw [Run.settingsPaths, Run.settingsPaths, h.explicit, hGlobal, h.document.workspace]

/-- What a file says about another part of the settings than logging. -/
theorem showAlike_about {left right : Host} (h : Settings.SameButLogging left right path)
    (hName : name ≠ "logging") : ShowAlike (about name) left right path where
  present := h.present
  layer hThere := by
    rcases Except.map_eq_map_iff.mp (h.layer hThere) with
      ⟨fault, hLeft, hRight⟩ | ⟨layer, other, hLeft, hRight, hSame⟩
    · rw [hLeft, hRight]
    · refine Except.map_eq_map_iff.mpr (.inr ⟨layer, other, hLeft, hRight, ?_⟩)
      rw [← about_withoutLogging hName, hSame, about_withoutLogging hName]

/-- In one order the layers of both runs say the same about any other part of the settings. -/
theorem SameInputs.about_layers (h : SameInputs left right) (order : Order)
    (hName : isNeeded name = true) :
    (left.inOrder order).layers.map (List.map (about name)) =
      (right.inOrder order).layers.map (List.map (about name)) := by
  have hNe : name ≠ "logging" := by
    rintro rfl
    exact absurd hName (by decide)
  have hEnv : about name (environmentLayer order left.env) =
      about name (environmentLayer order right.env) :=
    about_environmentLayer_congr order fun variableName _ hPart =>
      h.env variableName (not_isLogging_of_partName hName hPart)
  rw [layers_inOrder, layers_inOrder]
  have hFiles := map_fileLayers_congr h.explicit h.settingsPaths_eq fun path hPath =>
    showAlike_about (h.files path hPath) hNe
  rcases Except.map_eq_map_iff.mp hFiles with
    ⟨fault, hLeft, hRight⟩ | ⟨files, others, hLeft, hRight, hSame⟩
  · rw [hLeft, hRight]
    rfl
  · rw [hLeft, hRight]
    simp [Except.map, hSame, hEnv]

/-- In one order the settings of the runs differ in their logging part, and misfit alike. -/
theorem SameInputs.unlogged_inOrder (h : SameInputs left right) {order : Order}
    (hLeft : (left.inOrder order).ReadsLogging) (hRight : (right.inOrder order).ReadsLogging) :
    (left.inOrder order).loadSettings.map unlogged =
      (right.inOrder order).loadSettings.map unlogged := by
  have hAbout {name : String} (hName : isNeeded name = true) := h.about_layers order hName
  rw [loadSettings_eq, loadSettings_eq]
  rcases Except.map_eq_map_iff.mp (hAbout (show isNeeded "document" = true by decide)) with
    ⟨fault, hFails, hOther⟩ | ⟨layers, others, hLayers, hOthers, -⟩
  · rw [hFails, hOther]
    rfl
  · rw [hLayers, hOthers] at hAbout ⊢
    exact unlogged_ofLayers_congr order (fun name hName => Except.ok.inj (hAbout hName))
      (hLeft layers hLayers) (hRight others hOthers)

/-- The settings of the runs differ in their logging part, and misfit alike. -/
theorem SameButLogging.unlogged_loadSettings (h : SameButLogging left right)
    (hLeft : left.ReadsLogging) (hRight : right.ReadsLogging) :
    left.loadSettings.map unlogged = right.loadSettings.map unlogged := by
  rcases h.order with hOrder | ⟨hSteady, hReads⟩
  · have hLeftSame : left.inOrder right.host.order = left := by
      rw [← hOrder]
      rfl
    have hBoth := h.unlogged_inOrder (hLeftSame.symm ▸ hLeft) hRight
    rw [hLeftSame] at hBoth
    exact hBoth
  · calc
      left.loadSettings.map unlogged =
          (left.inOrder right.host.order).loadSettings.map unlogged := (hSteady _).symm
      _ = right.loadSettings.map unlogged := h.unlogged_inOrder (hReads _) hRight

end Layers

section Answer
variable {document : Document} {boxes : Machine.FallbackBoxes} {settings other : Settings}

theorem SameButLogging.agreesForPlan (h : SameButLogging left right) :
    left.env.AgreesForPlan right.env := by
  have hAll : ∀ name ∈ [Environment.sshfsFolders, Environment.nfsFolders, Environment.rsyncFolders],
      ¬Settings.variableStart.toList <+: name.toList := by decide
  have hSwitch := h.env Environment.disableFolders (not_isLogging (by decide))
  have hShell := h.env Environment.bashrc (not_isLogging (by decide))
  refine ⟨by rw [hSwitch], ?_, by rw [hShell]⟩
  intro _ name hName
  exact h.env name (not_isLogging (hAll name hName))

/-- In contexts of one document and the same boxes the command ends alike. -/
theorem SameButLogging.execute_eq (h : SameButLogging left right)
    (hCommand : left.invocation.command ≠ .settings) :
    Context.execute ⟨left.invocation.workspace, settings, ⟨document, boxes, left.env⟩⟩
        left.host.files left.invocation.command =
      Context.execute ⟨right.invocation.workspace, other, ⟨document, boxes, right.env⟩⟩
        right.host.files right.invocation.command := by
  have hMachines (path : Path) (hPath : left.invocation.command.manifest? = some path) :
      Context.machines ⟨left.invocation.workspace, settings, ⟨document, boxes, left.env⟩⟩
          left.host.files path =
        Context.machines ⟨right.invocation.workspace, other, ⟨document, boxes, right.env⟩⟩
          right.host.files path := by
    have hLoad : Manifest.load left.host.files (Path.join left.invocation.workspace path) =
        Manifest.load right.host.files (Path.join right.invocation.workspace path) :=
      h.manifest.load_eq hPath
    unfold Context.machines Context.loadManifest
    simp only [hLoad]
    cases Manifest.load right.host.files (Path.join right.invocation.workspace path) with
    | error reason => rfl
    | ok manifest => exact congrArg Except.ok (Machine.resolveAll_env document boxes _ _ _)
  have hFolders := h.folders
  rw [← h.command]
  cases hLeft : left.invocation.command with
  | machines path format =>
    rw [Context.execute, Context.execute, hMachines path (by rw [hLeft, Command.manifest?])]
  | folders category variableName format =>
    rw [hLeft] at hFolders
    have hSame : Store.folders ⟨document, boxes, left.env⟩ category
        (variableName.getD (Folders.defaultVariable category)) =
          Store.folders ⟨document, boxes, right.env⟩ category
            (variableName.getD (Folders.defaultVariable category)) :=
      Store.folders_congr rfl h.agreesForPlan.switch fun _ => hFolders _ List.mem_cons_self
    rw [Context.execute, Context.execute, Context.folders, Context.folders, hSame]
  | plan path =>
    have hSetup : Guest.linuxSetup ⟨document, boxes, left.env⟩ =
        Guest.linuxSetup ⟨document, boxes, right.env⟩ :=
      Guest.linuxSetup_eq_of_agreesForPlan h.agreesForPlan
    rw [Context.execute, Context.execute, Context.plan, Context.plan,
      hMachines path (by rw [hLeft, Command.manifest?])]
    simp only [Guest.plan_congr hSetup]
  | settings => exact absurd hLeft hCommand

/-- What a run is told about logging has no say in its answer, unless it is to print it. -/
theorem SameButLogging.answer_eq (h : SameButLogging left right) (hLeft : left.ReadsLogging)
    (hRight : right.ReadsLogging) (hCommand : left.invocation.command ≠ .settings) :
    left.answer = right.answer := by
  rw [answer, answer, Invocation.output, Invocation.output]
  rcases Except.map_eq_map_iff.mp (h.unlogged_loadSettings hLeft hRight) with
    ⟨fault, hFails, hOther⟩ | ⟨settings, other, hSettings, hOther, hSame⟩
  · rw [loadSettings] at hFails hOther
    rw [Invocation.load, Invocation.load, hFails, hOther]
    rfl
  · have hBoxes := (Settings.unlogged_eq_iff.mp hSame).2
    have hPath : right.documentPath settings = right.documentPath other :=
      congrArg right.resolve (document_congr hSame)
    rw [load_of_settings hSettings, load_of_settings hOther, h.document.load_eq hSettings, hPath,
      hBoxes]
    cases Document.load right.host.files (right.documentPath other) with
    | error fault => rfl
    | ok document => exact h.execute_eq hCommand

end Answer

end Run

end Fleet
