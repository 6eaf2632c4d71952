import Fleet.Command.Arguments
import Fleet.Proofs.Command.Options

/-!
# Invocations written and read

An invocation is written as its options in any order, then the name of its command, then the options
of that command in any order, and the category of `folders` behind a pair of hyphens. An option whose
value is the default may be left out. What is read back is the invocation, unless a path in it is
empty or it is to be verbose and quiet at once. Paths need not be texts; all else that is written is.
-/
namespace Fleet
open Command

/-- The options that are paths. -/
def Command.pathNames : List String := ["workspace", "settings", "document", "log-file", "manifest"]

def Command.emptyPath : RawText := ""

/-- A path must not be empty, and any other text may be. -/
def Command.accepts (item : Item) : Bool :=
  !(pathNames.contains item.name && item.value == some emptyPath)

section Take
variable {D : Type} {level : Level D} {name : String} {isSet : D → Bool} {draft : D}

theorem Command.accepts_path {value : RawText} (h : name ∈ pathNames) :
    accepts ⟨name, some value⟩ = true ↔ value ≠ emptyPath := by
  simp [accepts, h]

theorem Command.accepts_of_not_path (h : name ∉ pathNames) (value : RawText) :
    accepts ⟨name, some value⟩ = true := by
  simp [accepts, h]

theorem Command.all_valued_path (h : name ∈ pathNames) (value : Option RawText) :
    (valued name value).all accepts = true ↔ value ≠ some emptyPath := by
  cases value with
  | none => simp
  | some value => simp [valued, accepts_path h]

theorem Command.all_valued_other (h : name ∉ pathNames) (value : Option RawText) :
    (valued name value).all accepts = true := by
  cases value with
  | none => simp
  | some value => simp [valued, accepts_of_not_path h]

theorem Command.all_texted (h : name ∉ pathNames) (value : Option String) :
    (texted name value).all accepts = true := all_valued_other h _

theorem Command.all_flagged (name : String) (isSet : Bool) :
    (flagged name isSet).all accepts = true := by
  cases isSet <;> simp [flagged, accepts]

theorem Command.isEmpty_iff {path : RawText} : path.isEmpty = true ↔ path = emptyPath := by
  rw [RawText.isEmpty, List.isEmpty_iff]
  constructor
  · intro h
    exact congrArg RawText.mk h
  · rintro rfl
    rfl

theorem Command.readLong_path {set : D → RawText → D} (hName : name ≠ "help")
    (hFlag : (level.flags.find? fun flag => flag.name == name) = none)
    (hChoice : (level.choices.find? fun choice => choice.name == name) =
      some ⟨name, isSet, fun value draft => (pathValue value).map (set draft)⟩)
    (hOpen : isSet draft = false) (hPath : name ∈ pathNames) (value : RawText) :
    level.readLong ⟨draft, none⟩ name (some value) =
      if accepts ⟨name, some value⟩ then .ok ⟨set draft value, none⟩ else .error .badValue := by
  rw [Level.readLong_choice hName hFlag hChoice]
  by_cases hValue : value = emptyPath
  · simp [Choice.apply, hOpen, pathValue, isEmpty_iff, hValue, accepts_path hPath, Except.map]
  · simp [Choice.apply, hOpen, pathValue, isEmpty_iff, hValue, accepts_path hPath, Except.map]

theorem Command.readLong_text {set : D → String → D} (hName : name ≠ "help")
    (hFlag : (level.flags.find? fun flag => flag.name == name) = none)
    (hChoice : (level.choices.find? fun choice => choice.name == name) =
      some ⟨name, isSet, fun value draft => (textValue value).map (set draft)⟩)
    (hOpen : isSet draft = false) (hPath : name ∉ pathNames) (text : String) :
    level.readLong ⟨draft, none⟩ name (some (RawText.ofText text)) =
      if accepts ⟨name, some text⟩ then .ok ⟨set draft text, none⟩ else .error .badValue := by
  rw [Level.readLong_choice hName hFlag hChoice]
  simp [Choice.apply, hOpen, textValue, RawText.text?_ofText, accepts_of_not_path hPath, Except.map]

/-- An option that is left open stays open, whether or not its name has come. -/
theorem Command.if_open {α : Type} {field : Option α} {p : Prop} [Decidable p]
    (h : ∀ a, field = some a → p) : (if p then field else none) = field := by
  cases field with
  | none => split <;> rfl
  | some a => rw [if_pos (h a rfl)]

theorem Command.and_set {isSet : Bool} {p : Prop} [Decidable p] (h : isSet = true → p) :
    (decide p && isSet) = isSet := by
  cases isSet with
  | false => exact Bool.and_false _
  | true => simp [h rfl]

end Take

namespace Command
variable {name : Name} {draft : Draft} {names : List String}

def formatWord (format : OutputFormat) : RawText := format.name

def Draft.items (draft : Draft) : List Item :=
  valued "manifest" draft.manifest ++ texted "env-var" draft.variableName ++
    valued "format" (draft.format.map formatWord)

/-- What is known of a draft once the options with these names have come, and no word. -/
def Draft.upTo (draft : Draft) (names : List String) : Draft where
  manifest := if "manifest" ∈ names then draft.manifest else none
  variableName := if "env-var" ∈ names then draft.variableName else none
  format := if "format" ∈ names then draft.format else none

def Name.optionNames : Name → List String
  | .machines => ["manifest", "format"]
  | .folders => ["env-var", "format"]
  | .plan => ["manifest"]
  | .settings => []

theorem mem_items_iff {item : Item} : item ∈ draft.items ↔
    (∃ path, draft.manifest = some path ∧ item = ⟨"manifest", some path⟩) ∨
    (∃ text : String, draft.variableName = some text ∧ item = ⟨"env-var", some text⟩) ∨
    (∃ format, draft.format = some format ∧ item = ⟨"format", some (formatWord format)⟩) := by
  simp [Draft.items, mem_valued_iff, mem_texted_iff]

theorem formatValue_formatWord (format : OutputFormat) :
    formatValue (formatWord format) = .ok format := by
  rw [formatValue, textValue, formatWord, RawText.text?_ofText]
  cases format <;> rfl

theorem readLong_item {item : Item} (h : item ∈ draft.items) (hOwn : item.name ∈ name.optionNames)
    (hNew : item.name ∉ names) :
    name.level.readLong ⟨draft.upTo names, none⟩ item.name item.value =
      if accepts item then .ok ⟨draft.upTo (names ++ [item.name]), none⟩ else .error .badValue := by
  obtain ⟨path, hSome, rfl⟩ | ⟨text, hSome, rfl⟩ | ⟨format, hSome, rfl⟩ := mem_items_iff.mp h
  · have hChoice : (name.level.choices.find? fun choice => choice.name == "manifest") =
        some manifestChoice := by
      cases name with
      | machines | plan => rfl
      | folders | settings => simp [Name.optionNames] at hOwn
    rw [readLong_path (by simp) rfl hChoice (by simp [Draft.upTo, hNew]) (by simp [pathNames])]
    simp [Draft.upTo, hSome]
  · have hChoice : (name.level.choices.find? fun choice => choice.name == "env-var") =
        some variableChoice := by
      cases name with
      | folders => rfl
      | machines | plan | settings => simp [Name.optionNames] at hOwn
    rw [readLong_text (by simp) rfl hChoice (by simp [Draft.upTo, hNew]) (by simp [pathNames])]
    simp [Draft.upTo, hSome]
  · have hChoice : (name.level.choices.find? fun choice => choice.name == "format") =
        some formatChoice := by
      cases name with
      | machines | folders => rfl
      | plan | settings => simp [Name.optionNames] at hOwn
    rw [Level.readLong_choice (by simp) rfl hChoice]
    simp [Choice.apply, formatChoice, Draft.upTo, hNew, hSome, formatValue_formatWord, accepts,
      pathNames, Except.map]

theorem isSpelled_of_mem {item : Item} (h : item.name ∈ name.optionNames) : item.IsSpelled := by
  have hAll : ∀ name : Name, ∀ text ∈ name.optionNames,
      text ≠ "" ∧ equals ∉ (RawText.ofText text).bytes := by
    intro name
    cases name <;> decide
  exact hAll name item.name h

theorem nodup_optionNames (name : Name) : name.optionNames.Nodup := by
  cases name <;> decide

/-- A command takes the items that are its own. -/
theorem takes_items (h : draft.items.map Item.name ⊆ name.optionNames) :
    name.level.Takes accepts draft.items draft.upTo where
  spelled _ hItem := isSpelled_of_mem (h (List.mem_map_of_mem hItem))
  take _ hItem _ hNew := readLong_item hItem (h (List.mem_map_of_mem hItem)) hNew

theorem upTo_of_names (hWord : draft.category = none)
    (h : ∀ item ∈ draft.items, item.name ∈ names) : draft.upTo names = draft := by
  obtain ⟨manifest, format, category, variableName⟩ := draft
  simp only [mem_items_iff] at h
  rw [Draft.upTo, Draft.mk.injEq]
  refine ⟨?_, ?_, hWord.symm, ?_⟩
  · exact if_open fun path hSome => h ⟨"manifest", some path⟩ (by simpa using hSome)
  · exact if_open fun format hSome =>
      h ⟨"format", some (formatWord format)⟩ (.inr (.inr ⟨format, hSome, rfl⟩))
  · exact if_open fun text hSome => h ⟨"env-var", some text⟩ (by simpa using hSome)

theorem readFrom_items (hWord : draft.category = none)
    (hOwn : (draft.items.map Item.name).Sublist name.optionNames) {items : List Item}
    (h : items.Perm draft.items) (rest : List RawText) :
    name.level.readFrom ⟨{}, none⟩ (items.map Item.argument ++ rest) =
      if draft.items.all accepts then name.level.readFrom ⟨draft, none⟩ rest
      else .error .badValue :=
  (takes_items hOwn.subset).read_perm name.level.leadsIn_readFrom
    ((nodup_optionNames name).sublist hOwn) (fun _ => upTo_of_names hWord) h rest

theorem all_accepts_iff : draft.items.all accepts = true ↔ draft.manifest ≠ some emptyPath := by
  simp (disch := decide) only [Draft.items, List.all_append, Bool.and_eq_true, all_valued_path,
    all_valued_other, all_texted, and_true]

theorem read_items (hWord : draft.category = none) {given items : List Item}
    (hGiven : draft.items = given) (hOwn : (given.map Item.name).Sublist name.optionNames)
    (h : items.Perm given) (rest : List RawText) :
    name.read (items.map Item.argument ++ rest) =
      if draft.manifest = some emptyPath then .error .badValue
      else name.level.readFrom ⟨draft, none⟩ rest >>= fun draft => draft.finish name := by
  subst hGiven
  rw [Name.read, Level.read, readFrom_items hWord hOwn h]
  by_cases hPath : draft.manifest = some emptyPath
  · have hAll : ¬ draft.items.all accepts = true := by
      rw [all_accepts_iff]
      exact not_not_intro hPath
    rw [if_neg hAll, if_pos hPath]
    rfl
  · rw [if_pos (all_accepts_iff.mpr hPath), if_neg hPath]

/-- Behind a pair of hyphens a word is the category, whatever it looks like. -/
theorem readFrom_category (hWord : draft.category = none) (category : String) :
    Name.folders.level.readFrom ⟨draft, none⟩
      [RawText.ofText "--", RawText.ofText category] =
        .ok { draft with category := some category } := by
  have hForm : Form.ofArgument (RawText.ofText "--") = .ending := rfl
  have hSet : categoryChoice.isSet draft = false := by simp [categoryChoice, hWord]
  have hText : categoryChoice.set (RawText.ofText category) draft =
      .ok { draft with category := some category } := by
    simp [categoryChoice, textValue, RawText.text?_ofText, Except.map]
  have hRead : Name.folders.level.readWord ⟨draft, none⟩ (RawText.ofText category) =
      .ok ⟨draft, some (categoryChoice, some (RawText.ofText category))⟩ := by
    simp [Level.readWord, Name.level, Progress.has, hSet, Progress.settle, Except.map]
  simp only [Level.readFrom, hForm, Level.readWords, List.foldlM_cons, List.foldlM_nil, hRead]
  simp [bind, Except.bind, pure, Except.pure, Progress.settle, Choice.apply, hSet, hText]

/-- How a command is written. -/
inductive Writes : Command → List RawText → Prop
  | machines (manifest : Option RawText) (format : Option OutputFormat) {items : List Item}
      (h : items.Perm (valued "manifest" manifest ++ valued "format" (format.map formatWord))) :
      Writes (.machines (manifest.getD standardManifest) (format.getD .text))
        ("machines" :: items.map Item.argument)
  | folders (category : String) (variableName : Option String) (format : Option OutputFormat)
      {items : List Item}
      (h : items.Perm (texted "env-var" variableName ++
        valued "format" (format.map formatWord))) :
      Writes (.folders category variableName (format.getD .text))
        ("folders" :: (items.map Item.argument ++ [RawText.ofText "--", RawText.ofText category]))
  | plan (manifest : Option RawText) :
      Writes (.plan (manifest.getD standardManifest))
        ("plan" :: (valued "manifest" manifest).map Item.argument)
  | settings : Writes .settings ["settings"]

theorem exists_writes (command : Command) : ∃ own, command.Writes own := by
  cases command with
  | machines manifest format =>
    exact ⟨_, .machines (some manifest) (some format) (List.Perm.refl _)⟩
  | folders category variableName format =>
    exact ⟨_, .folders category variableName (some format) (List.Perm.refl _)⟩
  | plan manifest => exact ⟨_, .plan (some manifest)⟩
  | settings => exact ⟨_, .settings⟩

theorem getD_eq_empty_iff {path : Option RawText} {standard : RawText} (h : standard ≠ emptyPath) :
    path.getD standard = emptyPath ↔ path = some emptyPath := by
  cases path with
  | none => simpa using h
  | some path => simp

theorem Writes.read {command : Command} {own : List RawText} (h : command.Writes own) :
    ∃ rest, own = RawText.ofText command.name.text :: rest ∧
      command.name.read rest =
        if command.manifest? = some emptyPath then .error .badValue else .ok command := by
  have hStandard : standardManifest ≠ emptyPath := by decide
  cases h with
  | machines manifest format hPerm =>
    refine ⟨_, rfl, ?_⟩
    have hItems : Draft.items { manifest, format } =
        valued "manifest" manifest ++ valued "format" (format.map formatWord) := by
      simp [Draft.items]
    have hRead := @read_items .machines _ rfl _ _ hItems
      (names_valued_append_sublist _ _ manifest (format.map formatWord)) hPerm []
    rw [List.append_nil] at hRead
    simp only [Command.manifest?, Option.some.injEq, getD_eq_empty_iff hStandard]
    exact hRead
  | folders category variableName format hPerm =>
    refine ⟨_, rfl, ?_⟩
    have hItems : Draft.items { variableName, format } =
        texted "env-var" variableName ++ valued "format" (format.map formatWord) := by
      simp [Draft.items]
    have hRead := @read_items .folders _ rfl _ _ hItems
      (names_valued_append_sublist _ _ (variableName.map .ofText) (format.map formatWord)) hPerm
      [RawText.ofText "--", RawText.ofText category]
    rw [readFrom_category rfl] at hRead
    exact hRead
  | plan manifest =>
    refine ⟨_, rfl, ?_⟩
    have hItems : Draft.items { manifest } = valued "manifest" manifest := by
      simp [Draft.items]
    have hRead := @read_items .plan _ rfl _ _ hItems (names_valued_sublist "manifest" manifest)
      (List.Perm.refl _) []
    rw [List.append_nil] at hRead
    simp only [Command.manifest?, Option.some.injEq, getD_eq_empty_iff hStandard]
    exact hRead
  | settings => exact ⟨[], rfl, rfl⟩

end Command

namespace Invocation
variable {draft : Draft} {names : List String}

def Draft.items (draft : Draft) : List Item :=
  valued "workspace" draft.workspace ++ valued "settings" draft.settings ++
    valued "document" draft.document ++ flagged "verbose" draft.verbose ++
    flagged "quiet" draft.quiet ++ texted "log-level" draft.logLevel ++
    texted "log-format" draft.logFormat ++
    texted "log-output" draft.logOutput ++ valued "log-file" draft.logFile

/-- What is known of a draft once the options with these names have come. -/
def Draft.upTo (draft : Draft) (names : List String) : Draft where
  workspace := if "workspace" ∈ names then draft.workspace else none
  settings := if "settings" ∈ names then draft.settings else none
  document := if "document" ∈ names then draft.document else none
  verbose := "verbose" ∈ names && draft.verbose
  quiet := "quiet" ∈ names && draft.quiet
  logLevel := if "log-level" ∈ names then draft.logLevel else none
  logFormat := if "log-format" ∈ names then draft.logFormat else none
  logOutput := if "log-output" ∈ names then draft.logOutput else none
  logFile := if "log-file" ∈ names then draft.logFile else none

theorem mem_items_iff {item : Item} : item ∈ draft.items ↔
    (∃ path, draft.workspace = some path ∧ item = ⟨"workspace", some path⟩) ∨
    (∃ path, draft.settings = some path ∧ item = ⟨"settings", some path⟩) ∨
    (∃ path, draft.document = some path ∧ item = ⟨"document", some path⟩) ∨
    (draft.verbose = true ∧ item = ⟨"verbose", none⟩) ∨
    (draft.quiet = true ∧ item = ⟨"quiet", none⟩) ∨
    (∃ text : String, draft.logLevel = some text ∧ item = ⟨"log-level", some text⟩) ∨
    (∃ text : String, draft.logFormat = some text ∧ item = ⟨"log-format", some text⟩) ∨
    (∃ text : String, draft.logOutput = some text ∧ item = ⟨"log-output", some text⟩) ∨
    (∃ path, draft.logFile = some path ∧ item = ⟨"log-file", some path⟩) := by
  simp only [Draft.items, List.mem_append, mem_valued_iff, mem_texted_iff, mem_flagged_iff, or_assoc]

theorem readLong_item {item : Item} (h : item ∈ draft.items) (hNew : item.name ∉ names) :
    level.readLong ⟨draft.upTo names, none⟩ item.name item.value =
      if accepts item then .ok ⟨draft.upTo (names ++ [item.name]), none⟩ else .error .badValue := by
  obtain ⟨path, hSome, rfl⟩ | ⟨path, hSome, rfl⟩ | ⟨path, hSome, rfl⟩ | ⟨hSet, rfl⟩ | ⟨hSet, rfl⟩ |
    ⟨text, hSome, rfl⟩ | ⟨text, hSome, rfl⟩ | ⟨text, hSome, rfl⟩ | ⟨path, hSome, rfl⟩ :=
    mem_items_iff.mp h
  · rw [readLong_path (by simp) rfl rfl (by simp [Draft.upTo, hNew]) (by simp [pathNames])]
    simp [Draft.upTo, hSome]
  · rw [readLong_path (by simp) rfl rfl (by simp [Draft.upTo, hNew]) (by simp [pathNames])]
    simp [Draft.upTo, hSome]
  · rw [readLong_path (by simp) rfl rfl (by simp [Draft.upTo, hNew]) (by simp [pathNames])]
    simp [Draft.upTo, hSome]
  · rw [Level.readLong_flag (by simp) rfl]
    simp [Draft.upTo, hNew, hSet, accepts]
  · rw [Level.readLong_flag (by simp) rfl]
    simp [Draft.upTo, hNew, hSet, accepts]
  · rw [readLong_text (by simp) rfl rfl (by simp [Draft.upTo, hNew]) (by simp [pathNames])]
    simp [Draft.upTo, hSome]
  · rw [readLong_text (by simp) rfl rfl (by simp [Draft.upTo, hNew]) (by simp [pathNames])]
    simp [Draft.upTo, hSome]
  · rw [readLong_text (by simp) rfl rfl (by simp [Draft.upTo, hNew]) (by simp [pathNames])]
    simp [Draft.upTo, hSome]
  · rw [readLong_path (by simp) rfl rfl (by simp [Draft.upTo, hNew]) (by simp [pathNames])]
    simp [Draft.upTo, hSome]

def optionNames : List String := ["workspace", "settings", "document", "verbose", "quiet",
  "log-level", "log-format", "log-output", "log-file"]

theorem names_items_sublist (draft : Draft) : (draft.items.map Item.name).Sublist optionNames := by
  simp only [Draft.items, List.map_append]
  exact ((((((((names_valued_sublist _ _).append (names_valued_sublist _ _)).append
    (names_valued_sublist _ _)).append (names_flagged_sublist _ _)).append
    (names_flagged_sublist _ _)).append (names_texted_sublist _ _)).append
    (names_texted_sublist _ _)).append (names_texted_sublist _ _)).append (names_valued_sublist _ _)

theorem takes_items (draft : Draft) : level.Takes accepts draft.items draft.upTo where
  spelled item hItem := by
    have hAll : ∀ name ∈ optionNames, name ≠ "" ∧ equals ∉ (RawText.ofText name).bytes := by decide
    exact hAll _ ((names_items_sublist draft).subset (List.mem_map_of_mem hItem))
  take item hItem names hNew := readLong_item hItem hNew

/-- All options together are the draft. -/
theorem upTo_of_names (h : ∀ item ∈ draft.items, item.name ∈ names) : draft.upTo names = draft := by
  obtain ⟨workspace, settings, document, verbose, quiet, logLevel, logFormat, logOutput, logFile⟩ :=
    draft
  simp only [mem_items_iff] at h
  rw [Draft.upTo, Draft.mk.injEq]
  refine ⟨?_, ?_, ?_, ?_, ?_, ?_, ?_, ?_, ?_⟩
  · exact if_open fun path hSome => h ⟨"workspace", some path⟩ (by simpa using hSome)
  · exact if_open fun path hSome => h ⟨"settings", some path⟩ (by simpa using hSome)
  · exact if_open fun path hSome => h ⟨"document", some path⟩ (by simpa using hSome)
  · exact and_set fun hSet => h ⟨"verbose", none⟩ (by simpa using hSet)
  · exact and_set fun hSet => h ⟨"quiet", none⟩ (by simpa using hSet)
  · exact if_open fun text hSome => h ⟨"log-level", some text⟩ (by simpa using hSome)
  · exact if_open fun text hSome => h ⟨"log-format", some text⟩ (by simpa using hSome)
  · exact if_open fun text hSome => h ⟨"log-output", some text⟩ (by simpa using hSome)
  · exact if_open fun path hSome => h ⟨"log-file", some path⟩ (by simpa using hSome)

theorem leadsIn_readFrom : level.LeadsIn readFrom := by
  intro progress argument name value rest hForm
  rw [readFrom.eq_def]
  simp only [hForm]

theorem readFrom_items {items : List Item} (h : items.Perm draft.items) (rest : List RawText) :
    readFrom ⟨{}, none⟩ (items.map Item.argument ++ rest) =
      if draft.items.all accepts then readFrom ⟨draft, none⟩ rest else .error .badValue := by
  have hDistinct : optionNames.Nodup := by decide
  have hNames := hDistinct.sublist (names_items_sublist draft)
  exact (takes_items draft).read_perm leadsIn_readFrom hNames (fun _ => upTo_of_names) h rest

theorem all_accepts_iff : draft.items.all accepts = true ↔
    draft.workspace ≠ some emptyPath ∧ draft.settings ≠ some emptyPath ∧
      draft.document ≠ some emptyPath ∧ draft.logFile ≠ some emptyPath := by
  simp (disch := decide) only [Draft.items, List.all_append, Bool.and_eq_true, all_valued_path,
    all_texted, all_flagged, and_true, and_assoc]

theorem readFrom_command (name : Name) (rest : List RawText) :
    readFrom ⟨draft, none⟩ (RawText.ofText name.text :: rest) =
      name.read rest >>= fun command => .ok (draft, some command) := by
  have hForm : Form.ofArgument name.text = .word := by
    cases name <;> decide
  have hCommand : readCommand name.text rest = name.read rest := by
    cases name <;> rfl
  rw [readFrom.eq_def]
  simp only [hForm, hCommand, Progress.hand?]
  rfl

theorem read_items {items : List Item} (h : items.Perm draft.items) {command : Command}
    {own : List RawText} (hOwn : command.Writes own) :
    read (items.map Item.argument ++ own) =
      if draft.items.all accepts = true ∧ command.manifest? ≠ some emptyPath then
        draft.finish (some command)
      else .error .badValue := by
  obtain ⟨rest, rfl, hCommand⟩ := hOwn.read
  rw [read, readFrom_items h, readFrom_command, hCommand]
  by_cases hAll : draft.items.all accepts = true
  · by_cases hPath : command.manifest? = some emptyPath
    · simp only [hAll, hPath, ne_eq, not_true, and_false]
      rfl
    · simp only [hAll, hPath, ne_eq, not_false_iff, and_self]
      rfl
  · simp only [hAll]
    rfl

/-- How an invocation is written. -/
inductive Writes : Invocation → List RawText → Prop
  | intro (command : Command) (workspace settings document logFile : Option RawText)
      (verbose quiet : Bool) (logLevel logFormat logOutput : Option String) {items : List Item}
      {own : List RawText}
      (hItems : items.Perm (valued "workspace" workspace ++ valued "settings" settings ++
        valued "document" document ++ flagged "verbose" verbose ++ flagged "quiet" quiet ++
        texted "log-level" logLevel ++ texted "log-format" logFormat ++
        texted "log-output" logOutput ++ valued "log-file" logFile))
      (hOwn : command.Writes own) :
      Writes { command, workspace := workspace.getD standardWorkspace, settings, document, verbose,
               quiet, logLevel, logFormat, logOutput, logFile }
        (items.map Item.argument ++ own)

def paths (invocation : Invocation) : List RawText :=
  invocation.workspace :: (invocation.settings.toList ++ invocation.document.toList ++
    invocation.logFile.toList ++ invocation.command.manifest?.toList)

theorem not_mem_paths_iff {invocation : Invocation} : emptyPath ∉ invocation.paths ↔
    (invocation.workspace ≠ emptyPath ∧ invocation.settings ≠ some emptyPath ∧
      invocation.document ≠ some emptyPath ∧ invocation.logFile ≠ some emptyPath) ∧
      invocation.command.manifest? ≠ some emptyPath := by
  simp only [paths, List.mem_cons, List.mem_append, Option.mem_toList, not_or, and_assoc, ne_eq,
    @eq_comm _ emptyPath]

theorem exists_writes (invocation : Invocation) :
    ∃ arguments, invocation.Writes arguments := by
  obtain ⟨own, hOwn⟩ := Command.exists_writes invocation.command
  exact ⟨_, .intro invocation.command (some invocation.workspace) invocation.settings
    invocation.document invocation.logFile invocation.verbose invocation.quiet invocation.logLevel
    invocation.logFormat invocation.logOutput (List.Perm.refl _) hOwn⟩

theorem Writes.read {invocation : Invocation} {arguments : List RawText}
    (h : invocation.Writes arguments) :
    Invocation.read arguments =
      if emptyPath ∈ invocation.paths then .error .badValue
      else if invocation.verbose && invocation.quiet then .error .conflict
      else .ok invocation := by
  obtain ⟨command, workspace, settings, document, logFile, verbose, quiet, logLevel, logFormat,
    logOutput, hItems, hOwn⟩ := h
  let draft : Draft :=
    { workspace, settings, document, verbose, quiet, logLevel, logFormat, logOutput, logFile }
  have hWorkspace : workspace.getD standardWorkspace = emptyPath ↔ workspace = some emptyPath :=
    Command.getD_eq_empty_iff (by decide)
  rw [@read_items draft _ hItems _ _ hOwn, ← ite_not]
  refine if_congr (not_iff_comm.mp ?_) rfl rfl
  rw [not_mem_paths_iff, all_accepts_iff]
  simp only [ne_eq, hWorkspace]
  rfl

/-- Every invocation can be written, and in whatever way that is done it is read back, unless a path
is empty or both `--verbose` and `--quiet` are there. -/
theorem read_written_arguments (invocation : Invocation) :
    (∃ arguments, invocation.Writes arguments) ∧
      ∀ arguments, invocation.Writes arguments →
        read arguments =
          if emptyPath ∈ invocation.paths then .error .badValue
          else if invocation.verbose && invocation.quiet then .error .conflict
          else .ok invocation :=
  ⟨exists_writes invocation, fun _ h => h.read⟩

theorem read_written_arguments_like_options :
    read ["--log-file=--quiet", "--verbose", "--workspace=a=b", "folders", "--format=json",
      "--env-var=-h", "--", "--help"] =
      .ok { command := .folders "--help" (some "-h") .json, workspace := "a=b", settings := none,
            document := none, verbose := true, quiet := false, logLevel := none, logFormat := none,
            logOutput := none, logFile := some (.ofText "--quiet") } := by
  have hOwn : Command.Writes (.folders "--help" (some "-h") .json)
      ["folders", "--format=json", "--env-var=-h", "--", "--help"] :=
    @Command.Writes.folders "--help" (some "-h") (some .json)
      [⟨"format", some (.ofText "json")⟩, ⟨"env-var", some (.ofText "-h")⟩] (by decide)
  have h := (read_written_arguments _).2 _
    (@Writes.intro _ (some (.ofText "a=b")) none none (some (.ofText "--quiet")) true false none none
      none [⟨"log-file", some (.ofText "--quiet")⟩, ⟨"verbose", none⟩,
        ⟨"workspace", some (.ofText "a=b")⟩] _ (by decide) hOwn)
  exact h

end Invocation

end Fleet
