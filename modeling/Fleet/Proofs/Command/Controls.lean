import Fleet.Proofs.Command.Independence
import Fleet.Proofs.Guest.Footprint

/-!
# Control variables and the folders of a category

Two variables control what becomes of shared folders: one switches them off, the other names a file
for the shell of Linux guests. Neither is meant to hold mounts. But the variable that overrides a
category is named after the category, whatever it is, so two categories are overridden by a control
variable. Every other category is answered alike in environments that differ in these two variables
alone, as long as the switch is on in both or in neither.
-/
namespace Fleet

namespace Folders
open Environment

/-- The text with its ASCII letters in capitals. -/
def capitals (text : String) : String := String.ofList (text.toList.map Char.toUpper)

/-- The variables of the three known ways to mount follow the rule for all other categories. -/
theorem defaultVariable_eq (category : String) :
    defaultVariable category = "SSSD_TEST_SUITE_" ++ capitals category := by
  unfold defaultVariable
  cases hMethod : Method.ofCategory? category with
  | none => rfl
  | some method =>
    have hCategory : method.category = category := by
      simpa using List.find?_some hMethod
    subst hCategory
    cases method <;> decide

theorem defaultVariable_eq_iff {category word : String} :
    defaultVariable category = "SSSD_TEST_SUITE_" ++ word ↔ capitals category = word := by
  rw [defaultVariable_eq]
  constructor
  · intro h
    have hList := congrArg String.toList h
    rw [String.toList_append, String.toList_append] at hList
    exact String.toList_inj.mp (List.append_cancel_left hList)
  · rintro rfl
    rfl

theorem defaultVariable_eq_disableFolders_iff {category : String} :
    defaultVariable category = disableFolders ↔ capitals category = "BOX" := by
  have hName : disableFolders = "SSSD_TEST_SUITE_" ++ "BOX" := by decide
  rw [hName, defaultVariable_eq_iff]

theorem defaultVariable_eq_bashrc_iff {category : String} :
    defaultVariable category = bashrc ↔ capitals category = "BASHRC" := by
  have hName : bashrc = "SSSD_TEST_SUITE_" ++ "BASHRC" := by decide
  rw [hName, defaultVariable_eq_iff]

end Folders

namespace Environment
variable {left right : Environment}

/-- The environments differ in the control variables alone, and the switch is on in both or in
neither. -/
structure SameButControls (left right : Environment) : Prop where
  others : ∀ name, name ≠ disableFolders → name ≠ bashrc → left.get? name = right.get? name
  switch : left.get? disableFolders = some "yes" ↔ right.get? disableFolders = some "yes"

/-- The environments also agree on a control variable that the category is called like. -/
structure AgreesFor (category : String) (left right : Environment) : Prop
    extends SameButControls left right where
  box : Folders.capitals category = "BOX" → left.get? disableFolders = right.get? disableFolders
  shell : Folders.capitals category = "BASHRC" → left.get? bashrc = right.get? bashrc

theorem AgreesFor.get?_defaultVariable {category : String} (h : left.AgreesFor category right) :
    left.get? (Folders.defaultVariable category) =
      right.get? (Folders.defaultVariable category) := by
  by_cases hBox : Folders.defaultVariable category = disableFolders
  · rw [hBox]
    exact h.box (Folders.defaultVariable_eq_disableFolders_iff.mp hBox)
  · by_cases hShell : Folders.defaultVariable category = bashrc
    · rw [hShell]
      exact h.shell (Folders.defaultVariable_eq_bashrc_iff.mp hShell)
    · exact h.others _ hBox hShell

theorem startingWith_congr {start : String}
    (h : ∀ name, start.toList <+: name.toList → left.get? name = right.get? name) :
    left.startingWith start = right.startingWith start :=
  KeyMap.filter_toList_congr fun name hStart => h name (List.isPrefixOf_iff_prefix.mp hStart)

theorem SameButControls.settings (h : left.SameButControls right) :
    left.startingWith Settings.variableStart = right.startingWith Settings.variableStart := by
  -- The variables of the settings start otherwise than the control variables.
  refine startingWith_congr fun name hStart => h.others name ?_ ?_
  · rintro rfl
    exact absurd hStart (by decide)
  · rintro rfl
    exact absurd hStart (by decide)

theorem SameButControls.globalFile (h : left.SameButControls right) (host : Host) :
    Settings.globalFile host left = Settings.globalFile host right := by
  have hConfig := h.others "XDG_CONFIG_HOME" (by decide) (by decide)
  have hHome := h.others "HOME" (by decide) (by decide)
  rw [Settings.globalFile, Settings.configHome, hConfig, hHome, Settings.globalFile,
    Settings.configHome]

end Environment

def Context.withEnv (context : Context) (env : Environment) : Context :=
  { context with store := { context.store with env := env } }

section Loading
variable {host : Host} {invocation : Invocation} {left right : Environment}

theorem loadSettings_of_sameButControls (h : left.SameButControls right) :
    invocation.loadSettings host left = invocation.loadSettings host right := by
  have hPaths : Run.settingsPaths ⟨host, left, invocation⟩ =
      Run.settingsPaths ⟨host, right, invocation⟩ := by
    simp only [Run.settingsPaths, h.globalFile]
  have hAgree : Run.AgreeOnSettings ⟨host, left, invocation⟩ ⟨host, right, invocation⟩ :=
    ⟨rfl, hPaths, h.settings, fun _ _ => ⟨rfl, rfl, fun _ _ => rfl⟩, .inl rfl⟩
  exact hAgree.loadSettings_inOrder host.order

/-- What is loaded differs in the environment itself and in nothing else. -/
theorem load_of_sameButControls (h : left.SameButControls right) :
    invocation.load host right = (invocation.load host left).map (·.withEnv right) := by
  unfold Invocation.load
  rw [← loadSettings_of_sameButControls h]
  cases invocation.loadSettings host left with
  | error fault => rfl
  | ok settings =>
    simp only [bind, Except.bind, Except.mapError, Invocation.loadStore, Store.load]
    generalize Document.load host.files _ = loaded
    cases loaded with
    | error fault => rfl
    | ok document => rfl

theorem env_of_load {context : Context} (h : invocation.load host left = .ok context) :
    context.store.env = left := by
  let run : Run := ⟨host, left, invocation⟩
  have hRun : run.invocation.load run.host run.env = .ok context := h
  exact (Run.context_of_load hRun).2.1

end Loading

section Answer
variable {host : Host} {invocation : Invocation} {context : Context} {left right : Environment}
  {category : String} {format : OutputFormat}

theorem Context.folders_withEnv (h : context.store.env.AgreesFor category right) :
    (context.withEnv right).folders category none = context.folders category none := by
  have hStore : context.store.folders category (Folders.defaultVariable category) =
      (context.withEnv right).store.folders category (Folders.defaultVariable category) :=
    Store.folders_congr rfl h.switch fun _ => h.get?_defaultVariable
  rw [Context.folders, Context.folders, Option.getD_none, hStore]

/-- The folders of a category do not depend on the control variables, but for the switch and for a
control variable that the category is called like. -/
theorem output_eq_of_agreesFor (hCommand : invocation.command = .folders category none format)
    (h : left.AgreesFor category right) :
    invocation.output host left = invocation.output host right := by
  rw [Invocation.output, Invocation.output, load_of_sameButControls h.toSameButControls]
  cases hLoad : invocation.load host left with
  | error fault => rfl
  | ok context =>
    have hFolders : (context.withEnv right).folders category none =
        context.folders category none := Context.folders_withEnv (env_of_load hLoad ▸ h)
    change context.execute host.files invocation.command =
      (context.withEnv right).execute host.files invocation.command
    rw [hCommand, Context.execute, Context.execute, hFolders]

/-- A category that a control variable overrides does depend on it, whatever the document lists: it
is refused for a value that leaves the folders of all other categories alone. -/
theorem folders_of_control (document : Document) (fallback : Machine.FallbackBoxes) {name : String}
    (hControl : name = Environment.disableFolders ∨ name = Environment.bashrc)
    (hName : Folders.defaultVariable category = name) :
    (∃ folders, Store.folders ⟨document, fallback, .empty⟩ category
        (Folders.defaultVariable category) = .ok folders) ∧
      Store.folders ⟨document, fallback, .ofList [(name, "no")]⟩ category
        (Folders.defaultVariable category) = .error ⟨name, "no"⟩ := by
  rw [hName]
  rcases hControl with rfl | rfl
  · exact ⟨⟨_, rfl⟩, rfl⟩
  · exact ⟨⟨_, rfl⟩, rfl⟩

end Answer

section Cases

/-- A run that finds no files. -/
def bareHost : Host := { files := ⟨["work"], []⟩, home := "home" }

def foldersRun (category : String) : Invocation where
  command := .folders category none .json
  workspace := "."
  settings := none
  document := none
  verbose := false
  quiet := false
  logLevel := none
  logFormat := none
  logOutput := none
  logFile := none

/-- The switch is set to another word than the one that counts, and the shell file changes. -/
theorem output_eq_of_agreesFor_nfs :
    let left : Environment := .ofList [("SSSD_TEST_SUITE_NFS", "/src:/mnt")]
    let right := (left.insert Environment.disableFolders "no").insert Environment.bashrc "/c:/d"
    (foldersRun "nfs").command = .folders "nfs" none .json ∧ left.AgreesFor "nfs" right ∧
      (foldersRun "nfs").output bareHost left = (foldersRun "nfs").output bareHost right := by
  intro left right
  have hAgrees : left.AgreesFor "nfs" right := by
    refine ⟨⟨fun name hSwitch hShell => ?_, by decide⟩, by decide, by decide⟩
    exact ((KeyMap.get?_insert_of_ne hShell.symm _ _).trans
      (KeyMap.get?_insert_of_ne hSwitch.symm _ _)).symm
  exact ⟨rfl, hAgrees, output_eq_of_agreesFor rfl hAgrees⟩

/-- A category called like the switch takes its value for a mount. -/
theorem output_differs_box :
    ((foldersRun "box").output bareHost .empty).toOption = some "\x7b\x7d" ∧
      ((foldersRun "box").output bareHost (.ofList [(Environment.disableFolders, "no")])).toOption =
        none := by
  decide +kernel

/-- Not every category is answered alike in environments that differ in control variables. -/
theorem not_always_inert :
    ¬∀ (host : Host) (invocation : Invocation) (category : String) (format : OutputFormat)
      (left right : Environment), invocation.command = .folders category none format →
        left.SameButControls right →
          invocation.output host left = invocation.output host right := by
  intro hAlways
  have hSame : Environment.SameButControls .empty
      (.ofList [(Environment.disableFolders, "no")]) := by
    refine ⟨fun name hSwitch _ => ?_, by decide⟩
    exact (KeyMap.get?_insert_of_ne hSwitch.symm _ _).symm
  obtain ⟨hLeft, hRight⟩ := output_differs_box
  rw [hAlways bareHost (foldersRun "box") "box" .json _ _ rfl hSame, hRight] at hLeft
  cases hLeft

end Cases

end Fleet
