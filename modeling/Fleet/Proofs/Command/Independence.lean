import Fleet.Proofs.Command.Steady
import Fleet.Proofs.Files
import Mathlib.Data.List.Find

/-!
# What the stages of a run depend on

For each stage it is stated when two runs agree on what it is given: options, variables and the
outcome of reading the paths it may open. The order in which the tables of settings are gone through
is one of the things that a run is given; runs that are steady need not agree on it. Runs that agree
on a stage and on the stages before it fail in it alike. So the stage in which a run fails leaves no
say to what only later stages are given, be it another file, another variable or, before its own
stages, another command.
-/
namespace Fleet

/-- The stages of a command up to one of them. -/
def Command.upTo (command : Command) (stage : Stage) : List Stage :=
  command.stages.takeWhile (· ≠ stage) ++ [stage]

namespace Settings

/-- The paths of the files that a settings path may stand for. -/
def candidates (formats : Formats) (path : Path) : List Path :=
  path :: (withEndings formats path).map Prod.fst

variable {left right : Host} {path : Path}

theorem mem_candidates_of_findFile {host : Host} {found : Path} {format : Format}
    (h : findFile host path = .ok (found, format)) : found ∈ candidates host.formats path := by
  unfold findFile at h
  split at h
  · split at h
    · cases h
      exact List.mem_cons_self
    · cases h
  · split at h
    · next hFound =>
      cases h
      have hMember := List.mem_of_find?_eq_some hFound
      exact List.mem_cons_of_mem _ (List.mem_map_of_mem (f := Prod.fst) hMember)
    · cases h

/-- The hosts find the same in the place of a settings path. -/
structure Alike (left right : Host) (path : Path) : Prop where
  place : left.files.place = right.files.place
  formats : left.formats = right.formats
  read : ∀ candidate ∈ candidates left.formats path,
    left.files.read candidate = right.files.read candidate

theorem Alike.findFile_eq (h : Alike left right path) :
    findFile left path = findFile right path := by
  have hIsFile : ∀ candidate ∈ candidates left.formats path,
      left.files.isFile candidate = right.files.isFile candidate :=
    fun candidate hMem => Files.isFile_congr (h.read candidate hMem)
  have hFind : ((withEndings left.formats path).find? fun found => left.files.isFile found.1) =
      (withEndings left.formats path).find? fun found => right.files.isFile found.1 := by
    refine List.find?_congr fun found hMem => ?_
    exact hIsFile _ (List.mem_cons_of_mem _ (List.mem_map_of_mem hMem))
  rw [findFile, findFile, hIsFile path List.mem_cons_self, hFind, h.place, ← h.formats]

theorem Alike.fileLayer_eq (h : Alike left right path) :
    fileLayer left path = fileLayer right path := by
  rw [fileLayer, fileLayer, ← h.findFile_eq]
  cases hFound : findFile left path with
  | error fault => rfl
  | ok pair =>
    obtain ⟨found, format⟩ := pair
    have hSame := h.read found (mem_candidates_of_findFile hFound)
    have hSource : sourceName left.files found = sourceName right.files found := by
      rw [sourceName, sourceName, fullPath, fullPath, h.place]
    simp only [bind, Except.bind, hSame, hSource]

section View
variable {β : Type} {view : Members → β}

/-- In the place of a settings path the hosts show the same, as far as the view goes. -/
structure ShowAlike (view : Members → β) (left right : Host) (path : Path) : Prop where
  present : left.files.contains path = right.files.contains path
  layer : left.files.contains path = true →
    (fileLayer left path).map view = (fileLayer right path).map view

theorem Alike.showAlike (h : Alike left right path) (view : Members → β) :
    ShowAlike view left right path where
  present := Files.contains_congr (h.read path List.mem_cons_self)
  layer _ := by rw [h.fileLayer_eq]

/-- Both hosts show the same where the file is read, and come to the same where there is none. -/
theorem ShowAlike.layers_eq (h : ShowAlike view left right path)
    (absent : Except SettingsFault (List Members)) :
    (if left.files.contains path then (fileLayer left path).map fun layer => [layer]
        else absent).map (List.map view) =
      (if right.files.contains path then (fileLayer right path).map fun layer => [layer]
        else absent).map (List.map view) := by
  rw [← h.present]
  split
  · next hThere =>
    rcases Except.map_eq_map_iff.mp (h.layer hThere) with
      ⟨fault, hLeft, hRight⟩ | ⟨layer, other, hLeft, hRight, hSame⟩
    · rw [hLeft, hRight]
    · rw [hLeft, hRight]
      simp [Except.map, hSame]
  · rfl

end View

theorem environmentLayer_congr (order : Order) {left right : Environment}
    (h : left.startingWith variableStart = right.startingWith variableStart) :
    environmentLayer order left = environmentLayer order right := by
  rw [environmentLayer, environmentLayer, h]

end Settings

namespace Run

/-- Both runs read the same at the path. -/
def ReadAlike (left right : Run) (path : Path) : Prop :=
  left.host.files.read path = right.host.files.read path

structure AgreeOnSettings (left right : Run) : Prop where
  explicit : left.invocation.settings = right.invocation.settings
  paths : left.settingsPaths = right.settingsPaths
  env : left.env.startingWith Settings.variableStart =
    right.env.startingWith Settings.variableStart
  files : ∀ path ∈ left.settingsPaths, Settings.Alike left.host right.host path
  order : left.host.order = right.host.order ∨ left.Steady

structure AgreeOnDocument (left right : Run) : Prop where
  workspace : left.invocation.workspace = right.invocation.workspace
  explicit : left.invocation.document = right.invocation.document
  file : ∀ settings, left.loadSettings = .ok settings →
    ReadAlike left right (left.documentPath settings)

structure AgreeOnManifest (left right : Run) : Prop where
  workspace : left.invocation.workspace = right.invocation.workspace
  path : left.invocation.command.manifest? = right.invocation.command.manifest?
  file : ∀ path, left.invocation.command.manifest? = some path →
    ReadAlike left right (left.resolve path)

variable {left right : Run} {fault : RunFault}

/-- Runs whose files show the same show the same in all of them. -/
theorem map_fileLayers_congr {β : Type} {view : Settings.Members → β}
    (hExplicit : left.invocation.settings = right.invocation.settings)
    (hPaths : left.settingsPaths = right.settingsPaths)
    (hFiles : ∀ path ∈ left.settingsPaths, Settings.ShowAlike view left.host right.host path) :
    left.fileLayers.map (List.map view) = right.fileLayers.map (List.map view) := by
  simp only [settingsPaths] at hFiles hPaths
  rw [← hExplicit] at hPaths
  rw [fileLayers, fileLayers, Invocation.fileLayers, Invocation.fileLayers, ← hExplicit]
  cases hSettings : left.invocation.settings with
  | some path =>
    rw [hSettings] at hFiles
    exact (hFiles path List.mem_cons_self).layers_eq _
  | none =>
    rw [hSettings] at hFiles hPaths
    simp only [List.cons.injEq, and_true] at hPaths
    -- The first of the two files that cannot be read is the same in both runs.
    have hGlobal := (hFiles _ List.mem_cons_self).layers_eq (.ok [])
    have hWorkspace := (hFiles _ (List.mem_cons_of_mem _ List.mem_cons_self)).layers_eq (.ok [])
    simp only [Settings.optionalLayer, ← hPaths.1, ← hPaths.2]
    rcases Except.map_eq_map_iff.mp hGlobal with
      ⟨fault, hLeft, hRight⟩ | ⟨global, otherGlobal, hLeft, hRight, hSameGlobal⟩
    · simp only [hLeft, hRight, bind, Except.bind]
    · rcases Except.map_eq_map_iff.mp hWorkspace with
        ⟨fault, hLeft', hRight'⟩ | ⟨ofWorkspace, other, hLeft', hRight', hSameWorkspace⟩
      · simp only [hLeft, hRight, hLeft', hRight', bind, Except.bind]
      · simp only [hLeft, hRight, hLeft', hRight', bind, Except.bind]
        simp [Except.map, hSameGlobal, hSameWorkspace, pure, Except.pure]

theorem AgreeOnSettings.fileLayers_eq (h : AgreeOnSettings left right) :
    left.fileLayers = right.fileLayers := by
  have hSame := map_fileLayers_congr h.explicit h.paths fun path hPath =>
    (h.files path hPath).showAlike id
  rcases Except.map_eq_map_iff.mp hSame with
    ⟨fault, hLeft, hRight⟩ | ⟨layers, others, hLeft, hRight, hLayers⟩
  · rw [hLeft, hRight]
  · rw [hLeft, hRight, ← List.map_id layers, hLayers, List.map_id]

theorem AgreeOnSettings.loadSettings_inOrder (h : AgreeOnSettings left right)
    (order : Settings.Order) :
    (left.inOrder order).loadSettings = (right.inOrder order).loadSettings := by
  rw [loadSettings_eq, loadSettings_eq, layers_inOrder, layers_inOrder, h.fileLayers_eq,
    Settings.environmentLayer_congr order h.env]
  rfl

/-- The runs miss their settings alike, or have the same document and boxes. -/
theorem AgreeOnSettings.unlogged_eq (h : AgreeOnSettings left right) :
    left.loadSettings.map Settings.unlogged = right.loadSettings.map Settings.unlogged := by
  have hRight : right.inOrder right.host.order = right := rfl
  have hInOrder := h.loadSettings_inOrder right.host.order
  rw [hRight] at hInOrder
  rw [← hInOrder]
  rcases h.order with hOrder | hSteady
  · rw [← hOrder]
    rfl
  · exact (hSteady right.host.order).symm

theorem AgreeOnDocument.load_eq (h : AgreeOnDocument left right) {settings : Settings}
    (hSettings : left.loadSettings = .ok settings) :
    Document.load left.host.files (left.documentPath settings) =
      Document.load right.host.files (right.documentPath settings) := by
  have hPath : left.documentPath settings = right.documentPath settings := by
    rw [documentPath, documentPath, document, document, resolve, resolve, h.workspace, h.explicit]
  have hText := Files.readText_congr (h.file settings hSettings)
  rw [Document.load, Document.load, hText, hPath]

theorem AgreeOnManifest.load_eq (h : AgreeOnManifest left right) {path : Path}
    (hPath : left.invocation.command.manifest? = some path) :
    left.loadManifest path = right.loadManifest path := by
  have hResolve : left.resolve path = right.resolve path := by
    rw [resolve, resolve, h.workspace]
  have hText := Files.readText_congr (h.file path hPath)
  rw [loadManifest, loadManifest, Manifest.load, Manifest.load, hText, hResolve]

end Run

namespace Command
variable {left right : Command}

end Command

namespace Run
variable {left right : Run} {stage : Stage} {fault : RunFault}

theorem document_congr {settings other : Settings} (h : settings.unlogged = other.unlogged) :
    left.document settings = left.document other := by
  rw [document, document, (Settings.unlogged_eq_iff.mp h).1]

/-- The settings fail alike, and if they are found the document that they name is the same. -/
theorem AgreeOnSettings.found (h : AgreeOnSettings left right) :
    (∃ reason, left.loadSettings = .error reason ∧ right.loadSettings = .error reason) ∨
      ∃ settings other, left.loadSettings = .ok settings ∧ right.loadSettings = .ok other ∧
        right.document settings = right.document other := by
  refine (Except.map_eq_map_iff.mp h.unlogged_eq).imp_right ?_
  rintro ⟨settings, other, hLeft, hRight, hSame⟩
  exact ⟨settings, other, hLeft, hRight, document_congr hSame⟩

end Run

namespace Run
variable {run : Run} {fault : RunFault}

section Cases

def bareInvocation (command : Command) : Invocation :=
  ⟨command, ".", none, none, false, false, none, none, none, none⟩

/-- One variable sets all boxes, and another one a member of them. -/
def wavering : Run where
  host := { files := ⟨["work"], []⟩, home := "home" }
  env := .ofList [("MACHINE_CONFIG_BOXES", "x"), ("MACHINE_CONFIG_BOXES__LINUX", "y")]
  invocation := bareInvocation .settings

/-- Takes a member of the boxes before all boxes. -/
def membersFirst : Settings.Order := ⟨fun _ _ key => if key = "boxes" then 1 else 0⟩

end Cases

end Run

end Fleet
