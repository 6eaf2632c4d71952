import Fleet.Command.Run
import Fleet.Proofs.Files
import Fleet.Proofs.Json.ReadBack
import Fleet.Proofs.Settings.Printed

/-!
# Printed settings are a file of settings

The settings of a run can be printed unless the path of its document is no text. Their text is a
JSON file of settings. Loaded alone, with no variable that sets anything, it gives the settings of
the run again. What stands between the two is a writer and a reader of text, the bytes of a file, and
the two passes of gathering; only the last of these does not leave everything as it is, for it folds
the names of modules. Neither the order in which the run went through its tables nor that of the
reader matters to anything else.
-/
namespace Fleet

namespace Settings
variable {settings : Settings} {host : Host} {path : Path} {text : String} {env : Environment}

/-- The file holds the text, with at most blanks after it, and is named like a JSON file. -/
structure SavedAs (host : Host) (path : Path) (text : String) : Prop where
  json : formatOf? host.formats path = some .json
  bytes : ∃ blanks, (∀ c ∈ blanks, Json.isSpace c = true) ∧
    host.files.read path = .ok (text ++ String.ofList blanks).toUTF8.data.toList

/-- No variable sets a key. -/
def Unset (env : Environment) : Prop :=
  ∀ name, variableStart.toList <+: name.toList → env.get? name = none

/-- The settings are the same; the levels of modules are compared as maps. -/
structure Same (left right : Settings) : Prop where
  fields : ∀ field : Field, field.value left = field.value right
  modules : left.logging.modules.toKeyMap = right.logging.modules.toKeyMap

/-- The second settings are the first but for the names of modules, which are folded. -/
structure SameButFolded (settings folded : Settings) : Prop where
  fields : ∀ field : Field, field.value folded = field.value settings
  modules : FoldedFrom settings.logging.modules folded.logging.modules

section Paths
open Value
variable {α : Type} {value record : Value} {rank : String → Nat}

theorem readField_eq_some {read : Value → Except Misfit α} {place : FieldPlace} {result : α}
    (h : readField read record place = .ok (some result)) : ∃ value, read value = .ok result := by
  unfold readField at h
  split at h
  · cases h
  · obtain ⟨found, hFound, hSome⟩ := Except.map_eq_ok_iff.mp h
    cases hSome
    exact ⟨_, Except.mapError_eq_ok_iff.mp hFound⟩

theorem optionalPath_eq_some (h : value.optionalPath = .ok (some path)) :
    ∃ text : String, path = .ofText text := by
  unfold optionalPath at h
  split at h
  · cases h
  · obtain ⟨found, hFound, hSome⟩ := Except.map_eq_ok_iff.mp h
    cases hSome
    obtain ⟨text, -, rfl⟩ := Except.map_eq_ok_iff.mp hFound
    exact ⟨text, rfl⟩

/-- Paths that are read from a layer are texts. -/
theorem file_of_logging {config : Log.Config} (h : value.logging rank = .ok config) :
    ∀ path ∈ config.file, ∃ text : String, path = .ofText text := by
  unfold Value.logging at h
  split at h
  · cases h
  · obtain ⟨-, -, h⟩ := Except.bind_eq_ok_iff.mp h
    obtain ⟨enabled, -, h⟩ := Except.bind_eq_ok_iff.mp h
    obtain ⟨level, -, h⟩ := Except.bind_eq_ok_iff.mp h
    obtain ⟨format, -, h⟩ := Except.bind_eq_ok_iff.mp h
    obtain ⟨output, -, h⟩ := Except.bind_eq_ok_iff.mp h
    obtain ⟨file, hFile, h⟩ := Except.bind_eq_ok_iff.mp h
    obtain ⟨color, -, h⟩ := Except.bind_eq_ok_iff.mp h
    obtain ⟨modules, -, h⟩ := Except.bind_eq_ok_iff.mp h
    cases h
    intro path hPath
    obtain rfl : file = some (some path) := Option.join_eq_some_iff.mp hPath
    obtain ⟨value, hValue⟩ := readField_eq_some hFile
    exact optionalPath_eq_some hValue

theorem file_of_ofLayers {order : Order} {layers : List Members}
    (h : ofLayers order layers = .ok settings) :
    ∀ path ∈ settings.logging.file, ∃ text : String, path = .ofText text := by
  obtain ⟨found, hFound, hLogging⟩ := logging_of_settings (Except.mapError_eq_ok_iff.mp h)
  rw [hLogging]
  cases found with
  | none => exact fun path hPath => by cases hPath
  | some config =>
    obtain ⟨value, hValue⟩ := readField_eq_some hFound
    exact file_of_logging hValue

end Paths

section Text

theorem writable_written (settings : Settings) :
    Json.Writable Json.maxDepth settings.written := by
  have hModules : Json.Writable (124 + 1)
      (.object (settings.logging.modules.toList.map fun pair => (pair.1, .string pair.2))) := by
    refine .object fun member hMember => ?_
    obtain ⟨pair, -, rfl⟩ := List.mem_map.mp hMember
    exact .string pair.2
  have hFile : Json.Writable (124 + 1) (placeJson settings.logging.file) := by
    cases settings.logging.file <;> simp [placeJson]
  -- Settings nest three deep, of the levels in `maxDepth`.
  change Json.Writable (124 + 3) settings.written
  simp only [written, Machine.FallbackBoxes.toJson]
  generalize Json.object (settings.logging.modules.toList.map _) = modules at hModules ⊢
  simp [hModules, hFile]

theorem parse_pretty (source : String) (settings : Settings) {blanks : List Char}
    (hBlanks : ∀ c ∈ blanks, Json.isSpace c = true) :
    Format.json.parse source (settings.written.pretty ++ String.ofList blanks) =
      .ok (printed source settings) := by
  have hParse : Format.json.parse = Format.parseJson := rfl
  rw [hParse, Format.parseJson, Json.read_pretty_blanks (writable_written settings) hBlanks]
  simp only [ofJson_written]

theorem toList_pretty (settings : Settings) :
    ∃ rest, settings.written.pretty.toList = '\x7b' :: rest := by
  rw [Json.pretty, String.toList_ofList]
  exact ⟨_, rfl⟩

theorem withoutMark_toUTF8 {rest : List Char} (h : text.toList = '\x7b' :: rest) :
    withoutMark text.toUTF8.data.toList = text.toUTF8.data.toList := by
  have hBrace : String.utf8EncodeChar '\x7b' = [0x7B] := by decide
  rw [Text.toUTF8_eq_flatMap, h, List.flatMap_cons, hBrace]
  rfl

theorem findFile_of_read {bytes : List UInt8} {format : Format}
    (hFormat : formatOf? host.formats path = some format)
    (hRead : host.files.read path = .ok bytes) : findFile host path = .ok (path, format) := by
  have hFile : host.files.isFile path = true := by
    rw [Files.isFile, Files.find?_eq_file_iff.mpr hRead]
  rw [findFile, if_pos hFile, hFormat]

theorem fileLayer_saved (h : SavedAs host path settings.written.pretty) :
    fileLayer host path = .ok (printed (sourceName host.files path) settings) := by
  obtain ⟨blanks, hBlanks, hRead⟩ := h.bytes
  obtain ⟨rest, hRest⟩ := toList_pretty settings
  have hStart : (settings.written.pretty ++ String.ofList blanks).toList =
      '\x7b' :: (rest ++ blanks) := by
    rw [String.toList_append, hRest, String.toList_ofList, List.cons_append]
  rw [fileLayer, findFile_of_read h.json hRead]
  simp only [bind, Except.bind, hRead]
  rw [withoutMark_toUTF8 hStart, Text.lossy_toUTF8, parse_pretty _ _ hBlanks]

end Text

theorem environmentLayer_of_unset (order : Order) (h : Unset env) :
    environmentLayer order env = [] := by
  have hNone : env.startingWith variableStart = [] := by
    refine List.filter_eq_nil_iff.mpr fun pair hPair hStart => ?_
    have hGet := KeyMap.mem_toList_iff.mp hPair
    rw [h pair.1 (List.isPrefixOf_iff_prefix.mp hStart)] at hGet
    cases hGet
  rw [environmentLayer, hNone]
  rfl

theorem loadFile_saved (hPaths : TextPaths settings)
    (h : SavedAs host path settings.written.pretty) (hEnv : Unset env) :
    ∃ reloaded, loadFile host path env = .ok reloaded ∧ SameButFolded settings reloaded := by
  obtain ⟨blanks, -, hRead⟩ := h.bytes
  have hThere : host.files.contains path = true := by
    rw [Files.contains, Files.find?_eq_file_iff.mpr hRead]
    rfl
  obtain ⟨reloaded, hReloaded, hFields, hModules⟩ :=
    ofLayers_printed host.order (sourceName host.files path) hPaths
  refine ⟨reloaded, ?_, hFields, hModules⟩
  rw [loadFile, hThere, fileLayer_saved h, environmentLayer_of_unset host.order hEnv]
  exact hReloaded

end Settings

namespace Invocation
variable {host : Host} {env : Environment} {invocation : Invocation} {context : Context}

/-- The layers of the files that the settings of a run come from, lowest first. -/
def fileLayers (host : Host) (env : Environment) (invocation : Invocation) :
    Except SettingsFault (List Settings.Members) :=
  match invocation.settings with
  | some path =>
    if host.files.contains path then (Settings.fileLayer host path).map fun layer => [layer]
    else .error (.noFile path)
  | none => do
    let global ← Settings.optionalLayer host (Settings.globalFile host env)
    let ofWorkspace ← Settings.optionalLayer host (Settings.workspaceFile invocation.workspace)
    return global ++ ofWorkspace

/-- The layers that the settings of a run are gathered from, lowest first. -/
def layers (host : Host) (env : Environment) (invocation : Invocation) :
    Except SettingsFault (List Settings.Members) :=
  (invocation.fileLayers host env).map fun files =>
    files ++ [Settings.environmentLayer host.order env]

theorem loadSettings_eq (host : Host) (env : Environment) (invocation : Invocation) :
    invocation.loadSettings host env =
      invocation.layers host env >>= Settings.ofLayers host.order := by
  unfold loadSettings layers fileLayers
  cases invocation.settings with
  | some path =>
    simp only [Settings.loadFile]
    cases host.files.contains path with
    | false => rfl
    | true => cases Settings.fileLayer host path <;> rfl
  | none =>
    simp only [Settings.load]
    cases Settings.optionalLayer host (Settings.globalFile host env) with
    | error reason => rfl
    | ok global =>
      cases Settings.optionalLayer host (Settings.workspaceFile invocation.workspace) <;> rfl

/-- Logging is given to the run as an array of its fields. -/
def arrayLogging (host : Host) (env : Environment) (invocation : Invocation) : Bool :=
  match invocation.layers host env with
  | .ok layers => (Entries.get? "logging" (Settings.gather host.order layers).members).any fun
    | .array .. => true
    | _ => false
  | .error _ => false

theorem ofLayers_of_load (h : invocation.load host env = .ok context) :
    ∃ settings layers, invocation.layers host env = .ok layers ∧
      Settings.ofLayers host.order layers = .ok settings ∧
      context.settings = invocation.overrideDocument settings := by
  obtain ⟨settings, hSettings, hLoad⟩ := Except.bind_eq_ok_iff.mp h
  obtain ⟨store, -, hContext⟩ := Except.bind_eq_ok_iff.mp hLoad
  cases hContext
  rw [Except.mapError_eq_ok_iff, loadSettings_eq] at hSettings
  obtain ⟨layers, hLayers, hOf⟩ := Except.bind_eq_ok_iff.mp hSettings
  exact ⟨settings, layers, hLayers, hOf, rfl⟩

theorem lower_of_load (h : invocation.load host env = .ok context)
    (hLogging : invocation.arrayLogging host env = false) :
    ∀ pair ∈ context.settings.logging.modules.toList, Text.lower pair.1 = pair.1 := by
  obtain ⟨settings, layers, hLayers, hOf, hSettings⟩ := ofLayers_of_load h
  have hLower : ∀ pair ∈ settings.logging.modules.toList, Text.lower pair.1 = pair.1 := by
    refine Settings.lower_of_ofLayers hOf fun items origin hArray => ?_
    rw [arrayLogging, hLayers] at hLogging
    simp [hArray] at hLogging
  rw [hSettings]
  exact hLower

theorem textPaths_of_load (h : invocation.load host env = .ok context) {document : String}
    (hDocument : context.settings.document.text? = some document) :
    Settings.TextPaths context.settings where
  document := ⟨document, (RawText.ofText_of_text? hDocument).symm⟩
  file := by
    obtain ⟨settings, layers, -, hOf, hSettings⟩ := ofLayers_of_load h
    have hFile := Settings.file_of_ofLayers hOf
    rw [hSettings]
    exact hFile

/-- Only a document whose path is no text keeps the settings from being printed. -/
theorem execute_settings (h : invocation.load host env = .ok context) (files : Files) :
    context.execute files .settings =
      match context.settings.document.text? with
      | some _ => .ok context.settings.written.pretty
      | none => .error (.serialization .notText) := by
  rw [Context.execute]
  split
  · next hDocument =>
    rw [Settings.toJson_eq_written (textPaths_of_load h hDocument)]
    rfl
  · next hDocument =>
    rw [Settings.toJson, RawText.toJson, hDocument]
    rfl

/-- The text of the settings of a run is a file of settings that gives them again, with the names of
modules in lower case. They are in lower case unless the run has its logging from an array. Only a
document whose path is no text keeps the settings from being printed. -/
theorem settings_reloaded (h : invocation.load host env = .ok context) :
    (context.settings.document.text? = none →
      context.execute host.files .settings = .error (.serialization .notText)) ∧
    ∀ document, context.settings.document.text? = some document →
      ∃ text, context.execute host.files .settings = .ok text ∧
        ∀ reader path other, Settings.SavedAs reader path text → Settings.Unset other →
          ∃ reloaded, Settings.loadFile reader path other = .ok reloaded ∧
            Settings.SameButFolded context.settings reloaded ∧
            (invocation.arrayLogging host env = false →
              Settings.Same reloaded context.settings) := by
  constructor
  · intro hDocument
    rw [execute_settings h, hDocument]
  · intro document hDocument
    have hPaths := textPaths_of_load h hDocument
    refine ⟨context.settings.written.pretty, ?_, fun reader path other hSaved hUnset => ?_⟩
    · rw [execute_settings h, hDocument]
    · obtain ⟨reloaded, hLoad, hFolded⟩ := Settings.loadFile_saved hPaths hSaved hUnset
      exact ⟨reloaded, hLoad, hFolded, fun hTable =>
        ⟨hFolded.fields, hFolded.modules.toKeyMap_eq (lower_of_load h hTable)⟩⟩

section Cases

def settingsRun : Invocation where
  command := .settings
  workspace := "."
  settings := none
  document := some "hosts.json"
  verbose := false
  quiet := false
  logLevel := none
  logFormat := none
  logOutput := none
  logFile := none

def savedHost (text : String) : Host where
  files := ⟨["work"], [(["work", "out.json"], .file (text ++ "\n").toUTF8.data.toList)]⟩
  home := "home"

theorem savedAs_savedHost (text : String) :
    Settings.SavedAs (savedHost text) "out.json" text where
  json := by
    have hEnding : Path.ending? "out.json" = some "json" := by decide +kernel
    rw [Settings.formatOf?, hEnding]
    rfl
  bytes := ⟨['\n'], List.forall_mem_singleton.mpr rfl, rfl⟩

def levelsEnv : Environment := .ofList [
  ("MACHINE_CONFIG_BOXES__LINUX", ""), ("MACHINE_CONFIG_LOGGING__MODULES__Store", "debug")]

theorem settings_reloaded_levels : ∃ context text reloaded,
    settingsRun.load { files := ⟨["work"], []⟩, home := "home" } levelsEnv = .ok context ∧
      context.execute ⟨["work"], []⟩ .settings = .ok text ∧
      Settings.loadFile (savedHost text) "out.json" .empty = .ok reloaded ∧
      Settings.Same reloaded context.settings := by
  have hLoads : (settingsRun.load { files := ⟨["work"], []⟩, home := "home" }
      levelsEnv).toOption.isSome := by
    decide +kernel
  have hTable : settingsRun.arrayLogging { files := ⟨["work"], []⟩, home := "home" }
      levelsEnv = false := by
    decide +kernel
  obtain ⟨context, hContext⟩ := Option.isSome_iff_exists.mp hLoads
  have hLoad := Except.eq_ok_of_toOption hContext
  have hDocument : context.settings.document.text? = some "hosts.json" := by
    obtain ⟨settings, layers, -, -, hSettings⟩ := ofLayers_of_load hLoad
    rw [hSettings]
    exact RawText.text?_ofText "hosts.json"
  obtain ⟨text, hText, hReload⟩ := (settings_reloaded hLoad).2 _ hDocument
  obtain ⟨reloaded, hReloaded, -, hSame⟩ :=
    hReload (savedHost text) "out.json" .empty (savedAs_savedHost text) fun _ _ => rfl
  exact ⟨context, text, reloaded, hLoad, hText, hReloaded, hSame hTable⟩

/-- Logging as an array of its fields, the levels of modules last. -/
def arrayHost : Host where
  files := ⟨["work"], [(["work", "machine-config.toml"], .file <| String.toUTF8
    "logging = [true, 'warn', 'text', 'stderr', 'run.log', true, \x7b Store = 'debug' \x7d]\n"
    |>.data.toList)]⟩
  home := "home"

/-- A document that is named by a byte that stands in no text. -/
def rawRun : Invocation := { settingsRun with document := some ⟨[0xFF]⟩ }

/-- Not every run has the very settings that their text gives, for in an array the names of modules
may have capital letters; and not every run has a text of its settings. -/
theorem not_always_reloaded :
    (¬∀ (host : Host) (env : Environment) (invocation : Invocation) (context : Context)
      (text : String), invocation.load host env = .ok context →
        context.execute host.files .settings = .ok text →
        ∀ reader path other, Settings.SavedAs reader path text → Settings.Unset other →
          ∃ reloaded, Settings.loadFile reader path other = .ok reloaded ∧
            Settings.Same reloaded context.settings) ∧
    ∃ context, rawRun.load (savedHost "") .empty = .ok context ∧
      context.execute (savedHost "").files .settings = .error (.serialization .notText) := by
  constructor
  · intro hAlways
    have hLevels : (settingsRun.load arrayHost .empty).toOption.map (fun context =>
        (context.settings.document.text?,
          context.settings.logging.modules.toKeyMap.get? "Store")) =
        some (some "hosts.json", some "debug") := by
      decide +kernel
    obtain ⟨context, hContext, hPair⟩ := Option.map_eq_some_iff.mp hLevels
    obtain ⟨hDocument, hStore⟩ := Prod.mk.inj hPair
    have hLoad := Except.eq_ok_of_toOption hContext
    have hPaths := textPaths_of_load hLoad hDocument
    have hText : context.execute arrayHost.files .settings =
        .ok context.settings.written.pretty := by
      rw [execute_settings hLoad, hDocument]
    have hSaved := savedAs_savedHost context.settings.written.pretty
    have hUnset : Settings.Unset .empty := fun _ _ => rfl
    obtain ⟨reloaded, hReloaded, hSame⟩ := hAlways _ _ _ _ _ hLoad hText _ _ _ hSaved hUnset
    obtain ⟨other, hOther, hFolded⟩ := Settings.loadFile_saved hPaths hSaved hUnset
    cases hReloaded.symm.trans hOther
    rw [← hSame.modules] at hStore
    obtain ⟨pair, -, hLower, -⟩ := hFolded.modules.level _ _ hStore
    have hNotLower : Text.lower "Store" ≠ "Store" := by decide +kernel
    exact hNotLower (by rw [← hLower, Text.lower_lower])
  · have hLoads : (rawRun.load (savedHost "") .empty).toOption.isSome := by
      decide +kernel
    obtain ⟨context, hContext⟩ := Option.isSome_iff_exists.mp hLoads
    have hLoad := Except.eq_ok_of_toOption hContext
    refine ⟨context, hLoad, ?_⟩
    obtain ⟨settings, layers, -, -, hSettings⟩ := ofLayers_of_load hLoad
    have hDocument : RawText.text? ⟨[0xFF]⟩ = none := by decide +kernel
    rw [execute_settings hLoad, hSettings]
    simp [overrideDocument, rawRun, hDocument]

end Cases

end Invocation

end Fleet
