import Fleet.Proofs.Settings.Layers

/-!
# Which layer a setting comes from

Settings are layered field by field: each of the nine fields has the value of the highest layer that
sets it, whatever the layers say about other fields. Above the files stands the environment, where
one variable sets one field; below them stand the defaults. This is so for a file of any registered
format, and in whatever order the layers are gone through.
-/
namespace Fleet.Settings
open Value

variable {modules : Shape} {env : Environment} {layer : Members} {order : Order} {host : Host}
  {path : Path} {held : Option Members}

/-- What a layer of a file sets. -/
def fileSays (layer : Members) (field : Field) : Option FieldValue :=
  ((Value.table layer).leaf? field.path).bind field.kind.read

/-- The variable is a name of the field. -/
def Field.SpelledBy (field : Field) (name : String) : Prop :=
  route (variableKey name) = field.path.map .member

instance (field : Field) (name : String) : Decidable (field.SpelledBy name) :=
  inferInstanceAs (Decidable (_ = _))

/-- The name of a field in capitals, with two underscores before each member. -/
def Field.variableName (field : Field) : String :=
  variableStart ++ "__".intercalate (field.path.map String.toUpper)

theorem Field.spelledBy_variableName : ∀ field : Field, field.SpelledBy field.variableName := by
  decide +kernel

example : Field.linux.variableName = "MACHINE_CONFIG_BOXES__LINUX" := by decide +kernel

/-- What the environment sets. -/
def envSays (env : Environment) (field : Field) : Option FieldValue :=
  (env.startingWith variableStart).findSome? fun pair =>
    if field.SpelledBy pair.1 then field.kind.read (.string pair.2) else none

/-- Each field is what the first of the sources says that says something, or the standard. -/
def PerField (sources : List (Field → Option FieldValue)) (settings : Settings) : Prop :=
  ∀ field : Field, field.value settings =
    (sources.findSome? fun source => source field).getD (field.value .standard)

/-- The layer has the shape of settings, and none of its keys is a path into them. -/
structure WellShaped (modules : Shape) (layer : Members) : Prop where
  fits : (settingsShape modules).fits (.table layer)
  plain : ∀ member ∈ layer, isPlain member.1 ∧ isPlain (Text.lower member.1)

instance (modules : Shape) (layer : Members) : Decidable (WellShaped modules layer) :=
  decidable_of_iff (_ ∧ _) ⟨fun h => ⟨h.1, h.2⟩, fun h => ⟨h.fits, h.plain⟩⟩

def ofVariable (text : String) : Value := .scalar (.string text) (some "the environment")

/-- What each variable sets has the shape of settings, and no field has two names set. -/
structure EnvShaped (modules : Shape) (env : Environment) : Prop where
  fits : ∀ pair ∈ env.startingWith variableStart,
    (settingsShape modules).fits ((ofVariable pair.2).nested (route (variableKey pair.1)))
  once : ∀ field : Field, ∀ first ∈ env.startingWith variableStart,
    ∀ second ∈ env.startingWith variableStart,
      field.SpelledBy first.1 → field.SpelledBy second.1 → first.1 = second.1

instance (modules : Shape) (env : Environment) : Decidable (EnvShaped modules env) :=
  decidable_of_iff (_ ∧ _) ⟨fun h => ⟨h.1, h.2⟩, fun h => ⟨h.fits, h.once⟩⟩

/-- What there is at a path: no file, or a file with a layer. -/
inductive Holds (host : Host) (path : Path) : Option Members → Prop where
  | absent : host.files.contains path = false → Holds host path none
  | present {layer : Members} : host.files.contains path = true →
      fileLayer host path = .ok layer → Holds host path (some layer)

section Files

theorem sound_of_wellShaped (h : WellShaped modules layer) (hDistinct : Distinct (.table layer)) :
    Sound modules layer where
  fits member hMember := fits_nested_of_plain h.fits hMember (h.plain member hMember).1
  distinct := hDistinct.member
  plain member hMember _ := (h.plain member hMember).2

/-- The order in which a layer is gone through does not matter to what it sets. -/
theorem read_said_file (h : WellShaped modules layer) (hDistinct : Distinct (.table layer))
    (ranks : Ranks) (field : Field) :
    (said field.path (Members.inOrder ranks layer)).bind field.kind.read =
      fileSays layer field := by
  have hPlain : ∀ member ∈ Members.inOrder ranks layer, isPlain member.1 :=
    forall_key_inOrder (fun key => isPlain key)
      (fun member hMember => (h.plain member hMember).1) ranks
  rw [fileSays, said_eq_leaf? (nodup_inOrder hDistinct.nodup ranks) hPlain (field.leads modules),
    ← inOrder_table, leaf?_inOrder hDistinct]

end Files

section Variables

theorem leaf?_nested_scalar (x : Scalar) (origin : Option String) (steps : List Step)
    (path : List String) : ((Value.scalar x origin).nested steps).leaf? path =
      if steps = path.map .member then some x else none := by
  induction steps generalizing path with
  | nil => cases path <;> simp
  | cons step rest ih =>
    cases path with
    | nil => cases step <;> simp [scalar?]
    | cons name path =>
      cases step with
      | item index => simp
      | member key =>
        by_cases hKey : key = name <;> simp [hKey, ih]

theorem mem_splitUnderscores {c : Char} {text : List Char} (h : c ∈ splitUnderscores text) :
    c = '.' ∨ c ∈ text := by
  fun_induction splitUnderscores text with
  | case1 rest ih =>
    rcases List.mem_cons.mp h with hPoint | hRest
    · exact .inl hPoint
    · exact (ih hRest).imp_right fun hMem => List.mem_cons_of_mem _ (List.mem_cons_of_mem _ hMem)
  | case2 d rest _ ih =>
    rcases List.mem_cons.mp h with rfl | hRest
    · exact .inr List.mem_cons_self
    · exact (ih hRest).imp_right (List.mem_cons_of_mem d)
  | case3 => cases h

/-- The key of a variable is in lower case. -/
theorem lower_variableKey (name : String) : Text.lower (variableKey name) = variableKey name := by
  unfold Text.lower variableKey
  rw [String.toList_ofList, Text.lowerAfter_of_settled]
  intro c hChar
  rcases mem_splitUnderscores hChar with rfl | hMem
  · decide +kernel
  · rw [Text.lower, String.toList_ofList] at hMem
    exact Text.settled_of_mem_lowerAfter c (List.mem_of_mem_drop hMem)

theorem mem_variables_iff {pair : String × String} :
    pair ∈ Entries.arrange (order.ranks .variables []) (env.startingWith variableStart) ↔
      pair ∈ env.startingWith variableStart :=
  Entries.mem_arrange_iff

theorem mem_environmentLayer {member : String × Value} (h : member ∈ environmentLayer order env) :
    ∃ pair ∈ env.startingWith variableStart, member = (variableKey pair.1, ofVariable pair.2) := by
  obtain ⟨pair, hPair, hEq⟩ := (Entries.mem_foldl_put h).resolve_left (by simp)
  exact ⟨pair, mem_variables_iff.mp hPair, hEq⟩

/-- The values of variables are texts, so nothing in them is put in order. -/
theorem mem_environmentLayer_inOrder_iff {ranks : Ranks} {member : String × Value} :
    member ∈ Members.inOrder ranks (environmentLayer order env) ↔
      member ∈ environmentLayer order env := by
  rw [mem_inOrder_iff]
  constructor
  · rintro ⟨source, hSource, rfl⟩
    obtain ⟨pair, -, rfl⟩ := mem_environmentLayer hSource
    exact hSource
  · intro hMember
    obtain ⟨pair, -, rfl⟩ := mem_environmentLayer hMember
    exact ⟨_, hMember, rfl⟩

theorem sound_environmentLayer (order : Order) (h : EnvShaped modules env) :
    Sound modules (environmentLayer order env) where
  fits member hMember := by
    obtain ⟨pair, hPair, rfl⟩ := mem_environmentLayer hMember
    exact h.fits pair hPair
  distinct member hMember := by
    obtain ⟨pair, -, rfl⟩ := mem_environmentLayer hMember
    exact .scalar
  plain member hMember hRoute := by
    obtain ⟨pair, -, rfl⟩ := mem_environmentLayer hMember
    rw [lower_variableKey, isPlain, hRoute]

/-- A variable that names a field is the only one that does. -/
theorem EnvShaped.eq_of_spelledBy (h : EnvShaped modules env) {field : Field}
    {first second : String × String} (hFirst : first ∈ env.startingWith variableStart)
    (hSecond : second ∈ env.startingWith variableStart) (hSpelled : field.SpelledBy first.1)
    (hSpelled' : field.SpelledBy second.1) : first = second := by
  have hName := h.once field first hFirst second hSecond hSpelled hSpelled'
  obtain ⟨name, value⟩ := first
  obtain ⟨other, value'⟩ := second
  cases hName
  have hValue := KeyMap.mem_toList_iff.mp (List.mem_of_mem_filter hFirst)
  have hValue' := KeyMap.mem_toList_iff.mp (List.mem_of_mem_filter hSecond)
  rw [hValue] at hValue'
  cases hValue'
  rfl

theorem leaf?_ofVariable (field : Field) (pair : String × String) :
    ((ofVariable pair.2).nested (route (variableKey pair.1))).leaf? field.path =
      if field.SpelledBy pair.1 then some (.string pair.2) else none :=
  leaf?_nested_scalar _ _ _ _

/-- A variable that names a field is heard, for no other writes its key. -/
theorem EnvShaped.mem_environmentLayer (h : EnvShaped modules env) {field : Field}
    {pair : String × String} (hPair : pair ∈ env.startingWith variableStart)
    (hSpelled : field.SpelledBy pair.1) :
    (variableKey pair.1, ofVariable pair.2) ∈ environmentLayer order env := by
  have hThere : (Entries.get? (variableKey pair.1) (environmentLayer order env)).isSome :=
    Entries.isSome_get?_foldl_put (.inl ⟨pair, mem_variables_iff.mpr hPair, rfl⟩)
  obtain ⟨value, hValue⟩ := Option.isSome_iff_exists.mp hThere
  have hMember := Entries.mem_of_get? hValue
  obtain ⟨other, hOther, hEq⟩ := Settings.mem_environmentLayer hMember
  obtain ⟨hKey, rfl⟩ := Prod.mk.inj hEq
  have hSpelled' : field.SpelledBy other.1 := by
    rw [Field.SpelledBy, ← hKey]
    exact hSpelled
  rwa [h.eq_of_spelledBy hOther hPair hSpelled' hSpelled] at hMember

theorem said_environmentLayer (h : EnvShaped modules env) {field : Field}
    {pair : String × String} (hPair : pair ∈ env.startingWith variableStart)
    (hSpelled : field.SpelledBy pair.1) (ranks : Ranks) :
    said field.path (Members.inOrder ranks (environmentLayer order env)) =
      some (.string pair.2) := by
  have hMember : (variableKey pair.1, ofVariable pair.2) ∈
      (Members.inOrder ranks (environmentLayer order env)).reverse :=
    List.mem_reverse.mpr
      (mem_environmentLayer_inOrder_iff.mpr (h.mem_environmentLayer hPair hSpelled))
  rw [said, findSome?_eq_of_mem hMember, leaf?_ofVariable, if_pos hSpelled]
  -- Any other word on the field would be of a second variable that names it.
  intro member hLater
  obtain ⟨other, hOther, rfl⟩ :=
    mem_environmentLayer (mem_environmentLayer_inOrder_iff.mp (List.mem_reverse.mp hLater))
  by_cases hOtherSpelled : field.SpelledBy other.1
  · rw [h.eq_of_spelledBy hOther hPair hOtherSpelled hSpelled]
    exact .inr rfl
  · exact .inl (by rw [leaf?_ofVariable, if_neg hOtherSpelled])

theorem envSays_eq (h : EnvShaped modules env) {field : Field} {pair : String × String}
    (hPair : pair ∈ env.startingWith variableStart) (hSpelled : field.SpelledBy pair.1) :
    envSays env field = field.kind.read (.string pair.2) := by
  rw [envSays, findSome?_eq_of_mem hPair, if_pos hSpelled]
  intro other hOther
  by_cases hOtherSpelled : field.SpelledBy other.1
  · rw [h.eq_of_spelledBy hOther hPair hOtherSpelled hSpelled]
    exact .inr rfl
  · exact .inl (if_neg hOtherSpelled)

/-- What the environment says at a field is what the one variable says that is named so. -/
theorem read_said_environmentLayer (h : EnvShaped modules env) (ranks : Ranks) (field : Field) :
    (said field.path (Members.inOrder ranks (environmentLayer order env))).bind field.kind.read =
      envSays env field := by
  by_cases hSpelled : ∃ pair ∈ env.startingWith variableStart, field.SpelledBy pair.1
  · obtain ⟨pair, hPair, hSpelled⟩ := hSpelled
    rw [said_environmentLayer h hPair hSpelled ranks, envSays_eq h hPair hSpelled, Option.bind_some]
  · have hNone : said field.path (Members.inOrder ranks (environmentLayer order env)) = none := by
      refine List.findSome?_eq_none_iff.mpr fun member hMember => ?_
      obtain ⟨pair, hPair, rfl⟩ :=
        mem_environmentLayer (mem_environmentLayer_inOrder_iff.mp (List.mem_reverse.mp hMember))
      rw [leaf?_ofVariable, if_neg fun hPairSpelled => hSpelled ⟨pair, hPair, hPairSpelled⟩]
    have hEnv : envSays env field = none := by
      refine List.findSome?_eq_none_iff.mpr fun pair hPair => ?_
      rw [if_neg fun hPairSpelled => hSpelled ⟨pair, hPair, hPairSpelled⟩]
    rw [hNone, hEnv, Option.bind_none]

end Variables

theorem optionalLayer_of_holds (h : Holds host path held) :
    optionalLayer host path = .ok held.toList := by
  cases h with
  | absent hAbsent => simp [optionalLayer, hAbsent]
  | present hPresent hLayer => simp [optionalLayer, hPresent, hLayer, Except.map]

theorem load_of_holds {workspace : Path} {ofWorkspace : Option Members}
    (hGlobal : Holds host (globalFile host env) held)
    (hWorkspace : Holds host (workspaceFile workspace) ofWorkspace) :
    load host workspace env = ofLayers host.order
      (held.toList ++ ofWorkspace.toList ++ [environmentLayer host.order env]) := by
  rw [load, optionalLayer_of_holds hGlobal, optionalLayer_of_holds hWorkspace]
  rfl

theorem loadFile_of_present (h : Holds host path (some layer)) (env : Environment) :
    loadFile host path env =
      ofLayers host.order ([layer] ++ [environmentLayer host.order env]) := by
  cases h with
  | present hPresent hRead =>
    rw [loadFile, hPresent, hRead]
    rfl

theorem shaped_of_holds (h : Holds host path held)
    (hShaped : ∀ layer ∈ held, WellShaped modules layer) :
    ∀ layer ∈ held.toList, WellShaped modules layer ∧ Distinct (.table layer) := by
  intro layer hLayer
  rw [Option.mem_toList] at hLayer
  cases h with
  | absent _ => cases hLayer
  | present _ hRead =>
    cases hLayer
    exact ⟨hShaped _ rfl, (ordered_fileLayer hRead).distinct⟩

theorem layersInOrder_append (order : Order) (index : Nat) (layers more : List Members) :
    layersInOrder order index (layers ++ more) =
      layersInOrder order index layers ++ layersInOrder order (index + layers.length) more := by
  induction layers generalizing index with
  | nil => rfl
  | cons layer rest ih =>
    rw [List.cons_append, layersInOrder, ih, List.length_cons, Nat.add_right_comm,
      Nat.add_assoc index]
    rfl

/-- Files are heard in their order, whatever the order of each of them. -/
theorem findSome?_files (order : Order) (index : Nat) {layers : List Members}
    (hLayers : ∀ layer ∈ layers, WellShaped modules layer ∧ Distinct (.table layer))
    (field : Field) :
    ((layersInOrder order index layers).reverse.findSome? fun layer =>
        (said field.path layer).bind field.kind.read) =
      layers.reverse.findSome? fun layer => fileSays layer field := by
  induction layers generalizing index with
  | nil => rfl
  | cons layer rest ih =>
    obtain ⟨⟨hShaped, hDistinct⟩, hRest⟩ := List.forall_mem_cons.mp hLayers
    rw [layersInOrder, List.reverse_cons, List.reverse_cons, List.findSome?_append,
      List.findSome?_append, ih _ hRest, List.findSome?_singleton, List.findSome?_singleton,
      read_said_file hShaped hDistinct]

theorem ofLayers_perField (order : Order) (hEnv : EnvShaped .texts env) {layers : List Members}
    (hLayers : ∀ layer ∈ layers, WellShaped .texts layer ∧ Distinct (.table layer)) :
    ∃ settings, ofLayers order (layers ++ [environmentLayer order env]) = .ok settings ∧
      PerField (envSays env :: layers.reverse.map fileSays) settings := by
  have hSound : ∀ layer ∈ layers ++ [environmentLayer order env], Sound .texts layer := by
    intro layer hLayer
    rcases List.mem_append.mp hLayer with hFile | hLast
    · exact sound_of_wellShaped (hLayers layer hFile).1 (hLayers layer hFile).2
    · rw [List.mem_singleton.mp hLast]
      exact sound_environmentLayer order hEnv
  obtain ⟨settings, hSettings, hFields⟩ := ofLayers_of_sound order hSound
  refine ⟨settings, hSettings, fun field => ?_⟩
  rw [hFields field, layersInOrder_append, List.reverse_append, layersInOrder, layersInOrder,
    List.reverse_singleton, List.singleton_append, List.findSome?_cons,
    read_said_environmentLayer hEnv, findSome?_files order 0 hLayers, List.findSome?_cons,
    List.findSome?_map]
  rfl

/-- Layered settings have each field from the highest layer that sets it, in the order environment,
workspace file, global file, defaults; a file that is named takes the place of the two files. -/
theorem settings_perField (hEnv : EnvShaped .texts env) :
    (∀ (host : Host) (workspace : Path) (global ofWorkspace : Option Members),
      Holds host (globalFile host env) global →
      Holds host (workspaceFile workspace) ofWorkspace →
      (∀ layer ∈ global, WellShaped .texts layer) →
      (∀ layer ∈ ofWorkspace, WellShaped .texts layer) →
      ∃ settings, load host workspace env = .ok settings ∧
        PerField (envSays env :: (ofWorkspace.toList ++ global.toList).map fileSays) settings) ∧
    ∀ (host : Host) (path : Path) (layer : Members),
      Holds host path (some layer) → WellShaped .texts layer →
      ∃ settings, loadFile host path env = .ok settings ∧
        PerField [envSays env, fileSays layer] settings := by
  constructor
  · intro host workspace global ofWorkspace hGlobal hWorkspace hGlobalShaped hWorkspaceShaped
    have hLayers : ∀ layer ∈ global.toList ++ ofWorkspace.toList,
        WellShaped .texts layer ∧ Distinct (.table layer) := by
      intro layer hLayer
      rcases List.mem_append.mp hLayer with hLayer | hLayer
      · exact shaped_of_holds hGlobal hGlobalShaped layer hLayer
      · exact shaped_of_holds hWorkspace hWorkspaceShaped layer hLayer
    obtain ⟨settings, hSettings, hFields⟩ := ofLayers_perField host.order hEnv hLayers
    have hOrder : (global.toList ++ ofWorkspace.toList).reverse =
        ofWorkspace.toList ++ global.toList := by
      cases global <;> cases ofWorkspace <;> rfl
    rw [hOrder] at hFields
    exact ⟨settings, (load_of_holds hGlobal hWorkspace).trans hSettings, hFields⟩
  · intro host path layer hHolds hShaped
    have hLayers : ∀ found ∈ (some layer).toList, WellShaped .texts found ∧
        Distinct (.table found) :=
      shaped_of_holds hHolds (by simpa using hShaped)
    obtain ⟨settings, hSettings, hFields⟩ := ofLayers_perField host.order hEnv hLayers
    exact ⟨settings, (loadFile_of_present hHolds env).trans hSettings, hFields⟩

section Cases

def textFile (text : String) : Node := .file text.toUTF8.data.toList

/-- The layer of a file that is read. -/
def layerAt (host : Host) (path : Path) : Members :=
  match fileLayer host path with
  | .ok layer => layer
  | .error _ => []

theorem holds_layerAt (hPresent : host.files.contains path = true)
    (hRead : (fileLayer host path).isOk = true) : Holds host path (some (layerAt host path)) := by
  refine .present hPresent ?_
  unfold layerAt
  cases h : fileLayer host path with
  | ok layer => rfl
  | error fault =>
    rw [h] at hRead
    cases hRead

def layeredHost : Host where
  files := ⟨["work"], [
    (["work", "cfg"], .directory), (["work", "cfg", "machine-config"], .directory),
    (["work", "cfg", "machine-config", "config.toml"], textFile
      "document = 'all.json'\n[boxes]\nlinux = 'fedora'\n[logging]\nlevel = 'debug'"),
    (["work", "ws"], .directory),
    (["work", "ws", "machine-config.toml"], textFile
      "[boxes]\nwindows = 'ad'\n[logging.modules]\nstore = 3")]⟩
  home := "home"

def layeredEnv : Environment := .ofList [
  ("XDG_CONFIG_HOME", "cfg"), ("MACHINE_CONFIG_BOXES__LINUX", "alma"),
  ("MACHINE_CONFIG_LOGGING__ENABLED", "No")]

/-- The part of YAML with a key and a text in each line. -/
def flatYaml : FurtherFormat where
  name := "yaml"
  endings := ["yaml", "yml"]
  read source text := .ok <| (text.toList.splitOn '\n').filterMap fun line =>
    match line.splitOn ':' with
    | [key, ' ' :: value] =>
      some (String.ofList key, .scalar (.string (String.ofList value)) (some source))
    | _ => none

def yamlHost : Host where
  files := ⟨["work"], [(["work", "own.yaml"], textFile "document: own.json\nlevel: debug\n")]⟩
  home := "home"
  formats := ⟨[flatYaml], fun _ => 0⟩

theorem settings_perField_layered :
    (∃ settings, load layeredHost "ws" layeredEnv = .ok settings ∧
      ∀ pair ∈ [(Field.document, FieldValue.path "all.json"), (.linux, .text "alma"),
        (.windows, .text "ad"), (.enabled, .flag false), (.level, .text "debug"),
        (.color, .flag true)], pair.1.value settings = pair.2) ∧
    ∃ settings, loadFile yamlHost "own.yaml" layeredEnv = .ok settings ∧
      ∀ pair ∈ [(Field.document, FieldValue.path "own.json"), (.linux, .text "alma"),
        (.enabled, .flag false), (.level, .text "warn")], pair.1.value settings = pair.2 := by
  have hEnv : EnvShaped .texts layeredEnv := by decide +kernel
  have hGlobal : layeredHost.files.contains (globalFile layeredHost layeredEnv) ∧
      (fileLayer layeredHost (globalFile layeredHost layeredEnv)).isOk ∧
      WellShaped .texts (layerAt layeredHost (globalFile layeredHost layeredEnv)) := by
    decide +kernel
  have hWorkspace : layeredHost.files.contains (workspaceFile "ws") ∧
      (fileLayer layeredHost (workspaceFile "ws")).isOk ∧
      WellShaped .texts (layerAt layeredHost (workspaceFile "ws")) := by
    decide +kernel
  have hOwn : yamlHost.files.contains "own.yaml" ∧ (fileLayer yamlHost "own.yaml").isOk ∧
      WellShaped .texts (layerAt yamlHost "own.yaml") := by
    decide +kernel
  constructor
  · obtain ⟨settings, hLoad, hFields⟩ := (settings_perField hEnv).1 layeredHost "ws" _ _
      (holds_layerAt hGlobal.1 hGlobal.2.1) (holds_layerAt hWorkspace.1 hWorkspace.2.1)
      (fun layer hLayer => Option.mem_some_iff.mp hLayer ▸ hGlobal.2.2)
      (fun layer hLayer => Option.mem_some_iff.mp hLayer ▸ hWorkspace.2.2)
    refine ⟨settings, hLoad, fun pair hPair => (hFields pair.1).trans ?_⟩
    revert pair
    decide +kernel
  · obtain ⟨settings, hLoad, hFields⟩ := (settings_perField hEnv).2 yamlHost "own.yaml" _
      (holds_layerAt hOwn.1 hOwn.2.1) hOwn.2.2
    refine ⟨settings, hLoad, fun pair hPair => (hFields pair.1).trans ?_⟩
    revert pair
    decide +kernel

def strayEnv : Environment := .ofList [("HOME", "home")]

def strayHost : Host where
  files := ⟨["work"], [(["work", "ws"], .directory),
    (["work", "ws", "machine-config.toml"], textFile
      "[boxes]\nlinux = 'fedora'\n[logging.modules]\nm = []\n")]⟩
  home := "root"

/-- It is not enough that the levels of modules are a table. -/
theorem load_fails_of_module_array :
    EnvShaped .table strayEnv ∧ Holds strayHost (globalFile strayHost strayEnv) none ∧
    (∃ layer, Holds strayHost (workspaceFile "ws") (some layer) ∧ WellShaped .table layer) ∧
    ∀ settings, load strayHost "ws" strayEnv ≠ .ok settings := by
  have hWorkspace : strayHost.files.contains (workspaceFile "ws") ∧
      (fileLayer strayHost (workspaceFile "ws")).isOk ∧
      WellShaped .table (layerAt strayHost (workspaceFile "ws")) := by
    decide +kernel
  have hFails : (load strayHost "ws" strayEnv).isOk = false := by decide +kernel
  refine ⟨by decide +kernel, .absent (by decide +kernel),
    ⟨_, holds_layerAt hWorkspace.1 hWorkspace.2.1, hWorkspace.2.2⟩, fun settings h => ?_⟩
  rw [h] at hFails
  cases hFails

end Cases

end Fleet.Settings
