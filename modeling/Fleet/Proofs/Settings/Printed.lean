import Fleet.Proofs.Settings.Folded
import Fleet.Proofs.Settings.Precedence
import Fleet.Proofs.Text.Utf8

/-!
# The layer of printed settings

Settings whose paths are texts can be printed, and make a layer that has every field, by its plain
name and with the value it has. Gathered alone over the defaults that layer gives the settings again,
but for the names of modules: these are keys of a table that is merged, and so they are folded. That
happens in the first pass, in the order in which the table is gone through; in the second one nothing
is left to fold, and the order leaves no trace.
-/
namespace Fleet.Settings
open Value

section Layer
variable {source : String}

def ofText (source text : String) : Value := .scalar (.string text) (some source)

def ofFlag (source : String) (flag : Bool) : Value := .scalar (.bool flag) (some source)

def ofPath (source : String) (path : Path) : Value := ofText source path.display

def ofPlace (source : String) (place : Option Path) : Value :=
  .scalar (place.elim .null fun path => .string path.display) (some source)

def printedBoxes (source : String) (boxes : Machine.FallbackBoxes) : Members := [
  ("linux", ofText source boxes.linux),
  ("windows", ofText source boxes.windows)]

def printedModules (source : String) (pairs : List (String × String)) : Members :=
  pairs.map fun pair => (pair.1, ofText source pair.2)

def printedLogging (source : String) (logging : Log.Config) : Members := [
  ("color", ofFlag source logging.color),
  ("enabled", ofFlag source logging.enabled),
  ("file", ofPlace source logging.file),
  ("format", ofText source logging.format),
  ("level", ofText source logging.level),
  ("modules", .table (printedModules source logging.modules.toKeyMap.toList)),
  ("output", ofText source logging.output)]

/-- What a file has to say that holds the printed settings. -/
def printed (source : String) (settings : Settings) : Members := [
  ("boxes", .table (printedBoxes source settings.boxes)),
  ("document", ofPath source settings.document),
  ("logging", .table (printedLogging source settings.logging))]

/-- The paths in the settings are texts. -/
structure TextPaths (settings : Settings) : Prop where
  document : ∃ text : String, settings.document = .ofText text
  file : ∀ path ∈ settings.logging.file, ∃ text : String, path = .ofText text

def placeJson (place : Option Path) : Json := place.elim .null fun path => .string path.display

/-- Printed settings whose paths are texts. -/
def written (settings : Settings) : Json := .object [
  ("document", .string settings.document.display),
  ("boxes", settings.boxes.toJson),
  ("logging", .object [
    ("enabled", .bool settings.logging.enabled),
    ("level", .string settings.logging.level),
    ("format", .string settings.logging.format),
    ("output", .string settings.logging.output),
    ("file", placeJson settings.logging.file),
    ("color", .bool settings.logging.color),
    ("modules", .object (settings.logging.modules.toList.map fun pair =>
      (pair.1, .string pair.2)))])]

theorem toJson_ofText (text : String) : (RawText.ofText text).toJson = .ok (.string text) := by
  rw [RawText.toJson, RawText.text?_ofText]

theorem toJson_eq_written {settings : Settings} (h : TextPaths settings) :
    settings.toJson = .ok settings.written := by
  have hFile : Log.Config.fileJson settings.logging.file =
      .ok (placeJson settings.logging.file) := by
    cases hFile : settings.logging.file with
    | none => rfl
    | some path =>
      obtain ⟨text, rfl⟩ := h.file path hFile
      rw [Log.Config.fileJson, toJson_ofText, placeJson, Option.elim_some, RawText.display_ofText]
  obtain ⟨text, hText⟩ := h.document
  rw [Settings.toJson, Log.Config.toJson, hText, toJson_ofText, hFile, written, hText,
    RawText.display_ofText]
  rfl

theorem ofJsonMembers_eq_map (members : List (String × Json)) :
    ofJsonMembers source members =
      members.map fun member => (member.1, ofJson source member.2) := by
  induction members with
  | nil => rfl
  | cons member rest ih => rw [ofJsonMembers, ih, List.map_cons]

/-- The levels of modules are written in any order, and read in that of their names. -/
theorem sortedMembers_modules (before pairs : List (String × String)) :
    Json.sortedMembers (before.map fun pair => (pair.1, .string pair.2))
        (pairs.map fun pair => (pair.1, .string pair.2)) =
      (pairs.foldl (fun entries pair => Entries.put pair.1 pair.2 entries) before).map
        fun pair => (pair.1, .string pair.2) := by
  induction pairs generalizing before with
  | nil => rfl
  | cons pair rest ih =>
    rw [List.foldl_cons, ← ih, Entries.put_map]
    rfl

theorem ofJson_modules (map : HashMap String) :
    ofJson source (Json.object (map.toList.map fun pair => (pair.1, .string pair.2))).sorted =
      .table (printedModules source map.toKeyMap.toList) := by
  have hSorted := sortedMembers_modules [] map.toList
  rw [← KeyMap.entries_ofList, List.map_nil] at hSorted
  rw [Json.sorted, hSorted, ofJson, ofJsonMembers_eq_map, List.map_map]
  rfl

theorem ofJson_place (place : Option Path) :
    ofJson source (placeJson place).sorted = ofPlace source place := by
  cases place <;> rfl

theorem ofJson_written (source : String) (settings : Settings) :
    ofJson source settings.written.sorted = .table (printed source settings) := by
  -- Each record is written in the order of its fields and read in that of its keys.
  have hTop (document boxes logging : Json) : Json.sortedMembers []
      [("document", document), ("boxes", boxes), ("logging", logging)] =
        [("boxes", boxes.sorted), ("document", document.sorted), ("logging", logging.sorted)] := rfl
  have hBoxes (linux windows : Json) : Json.sortedMembers []
      [("linux", linux), ("windows", windows)] =
        [("linux", linux.sorted), ("windows", windows.sorted)] := rfl
  have hLogging (enabled level format output file color modules : Json) : Json.sortedMembers []
      [("enabled", enabled), ("level", level), ("format", format), ("output", output),
        ("file", file), ("color", color), ("modules", modules)] =
      [("color", color.sorted), ("enabled", enabled.sorted), ("file", file.sorted),
        ("format", format.sorted), ("level", level.sorted), ("modules", modules.sorted),
        ("output", output.sorted)] := rfl
  have hModules := @ofJson_modules source settings.logging.modules
  have hPlace := @ofJson_place source settings.logging.file
  simp only [written, Machine.FallbackBoxes.toJson]
  generalize Json.object (settings.logging.modules.toList.map _) = modules at hModules ⊢
  generalize placeJson settings.logging.file = place at hPlace ⊢
  simp only [Json.sorted, hTop, hBoxes, hLogging, ofJson, ofJsonMembers, hModules, hPlace]
  rfl

end Layer

section Shape
variable {source : String}

theorem fits_printedModules (pairs : List (String × String)) :
    Shape.texts.fits (.table (printedModules source pairs)) := by
  refine Shape.fits_texts_iff.mpr ⟨_, rfl, fun member hMember => ?_⟩
  obtain ⟨pair, -, rfl⟩ := List.mem_map.mp hMember
  rfl

theorem fits_ofText (text : String) : (Shape.field .text).fits (ofText source text) := rfl

theorem fits_ofPath (path : Path) : (Shape.field .path).fits (ofPath source path) := rfl

theorem fits_ofFlag (flag : Bool) : (Shape.field .flag).fits (ofFlag source flag) := rfl

theorem fits_ofPlace (place : Option Path) :
    (Shape.field .place).fits (ofPlace source place) := by
  cases place <;> rfl

theorem fits_record_of_names {fields : List (String × Shape)} {members : Members}
    (hNames : ∀ member ∈ members, member.1 ∈ fieldNames)
    (h : ∀ field ∈ fields, ∀ member ∈ members, member.1 = field.1 → field.2.fits member.2) :
    (Shape.record fields).fits (.table members) := by
  refine Shape.fits_record_iff.mpr ⟨_, rfl, fun field hField member hMember hName => ?_⟩
  rw [lower_fieldName _ (hNames member hMember)] at hName
  exact ⟨hName, h field hField member hMember hName⟩

theorem names_printedLogging (logging : Log.Config) :
    ∀ member ∈ printedLogging source logging, member.1 ∈ fieldNames := by
  simp [printedLogging, fieldNames]

theorem fits_printedBoxes (boxes : Machine.FallbackBoxes) :
    (Shape.record boxFields).fits (.table (printedBoxes source boxes)) := by
  refine fits_record_of_names (by simp [printedBoxes, fieldNames]) ?_
  simp [boxFields, printedBoxes, fits_ofText]

theorem fits_printedLogging (logging : Log.Config) :
    (Shape.record (logFields .texts)).fits (.table (printedLogging source logging)) := by
  refine fits_record_of_names (names_printedLogging logging) ?_
  simp [logFields, printedLogging, fits_ofText, fits_ofFlag, fits_ofPlace, fits_printedModules]

theorem names_printed (settings : Settings) :
    ∀ member ∈ printed source settings, member.1 ∈ topNames := by
  simp [printed, topNames]

theorem isPlain_topName : ∀ name ∈ topNames, isPlain name ∧ isPlain (Text.lower name) := by
  decide +kernel

theorem wellShaped_printed (source : String) (settings : Settings) :
    WellShaped .texts (printed source settings) where
  fits := by
    refine fits_record_of_names (by simp [printed, fieldNames]) ?_
    simp [topFields, printed, fits_ofPath, fits_printedBoxes, fits_printedLogging]
  plain member hMember := isPlain_topName _ (names_printed settings member hMember)

theorem ordered_printed (source : String) (settings : Settings) :
    Ordered (.table (printed source settings)) :=
  ofJson_written source settings ▸ ordered_ofJson_sorted settings.written

theorem fileSays_printed (source : String) {settings : Settings} (h : TextPaths settings)
    (field : Field) : fileSays (printed source settings) field = some (field.value settings) := by
  cases field
  case document =>
    obtain ⟨text, hText⟩ := h.document
    change some (FieldValue.path (.ofText settings.document.display)) =
      some (.path settings.document)
    rw [hText, RawText.display_ofText]
  case file =>
    change FieldKind.place.read
        (settings.logging.file.elim .null fun path => .string path.display) =
      some (.place settings.logging.file)
    cases hFile : settings.logging.file with
    | none => rfl
    | some path =>
      obtain ⟨text, rfl⟩ := h.file path hFile
      change some (FieldValue.place (some (.ofText (RawText.ofText text).display))) = _
      rw [RawText.display_ofText]
  all_goals rfl

end Shape

section Levels
variable {members : Members} {pairs : List (String × String)} {source : String}

/-- Levels of modules with their names in lower case. Of names that become the same the last one
holds. -/
def foldKeys (pairs : List (String × String)) : KeyMap String :=
  KeyMap.ofList (pairs.map fun pair => (Text.lower pair.1, pair.2))

theorem lower_foldKeys : ∀ pair ∈ (foldKeys pairs).toList, Text.lower pair.1 = pair.1 := by
  intro pair hPair
  have hKey : pair.1 ∈ (pairs.map fun pair => (Text.lower pair.1, pair.2)).map Prod.fst :=
    KeyMap.mem_keys_ofList_iff.mp (List.mem_map_of_mem hPair)
  rw [List.map_map] at hKey
  obtain ⟨other, -, hOther⟩ := List.mem_map.mp hKey
  rw [← hOther]
  exact Text.lower_lower other.1

/-- The second time nothing is left to fold, in whatever order the levels come. -/
theorem foldKeys_foldKeys (rank : String → Nat) (pairs : List (String × String)) :
    foldKeys (Entries.arrange rank (foldKeys pairs).toList) = foldKeys pairs := by
  have hSame : (Entries.arrange rank (foldKeys pairs).toList).map
      (fun pair => (Text.lower pair.1, pair.2)) = Entries.arrange rank (foldKeys pairs).toList := by
    refine (List.map_congr_left fun pair hPair => ?_).trans (List.map_id _)
    rw [lower_foldKeys pair (Entries.mem_arrange_iff.mp hPair)]
    rfl
  rw [foldKeys, hSame]
  exact HashMap.toKeyMap_ofKeyMap rank (foldKeys pairs)

/-- The table has each key once and in lower case, and these levels of modules. -/
structure HasLevels (source : String) (pairs : List (String × String)) (members : Members) :
    Prop where
  nodup : (members.map Prod.fst).Nodup
  lower : ∀ member ∈ members, Text.lower member.1 = member.1
  levels : Entries.get? "modules" members = some (.table (printedModules source pairs))

theorem inOrder_printedModules (ranks : Ranks) (pairs : List (String × String)) :
    Members.inOrder ranks (printedModules source pairs) =
      printedModules source (Entries.arrange (ranks []) pairs) := by
  rw [printedModules, printedModules, ← Entries.arrange_map (ofText source), Members.inOrder,
    membersInOrder_eq_map, List.map_map]
  rfl

theorem HasLevels.inOrder (h : HasLevels source pairs members) (ranks : Ranks) :
    ∃ rank, HasLevels source (Entries.arrange rank pairs) (Members.inOrder ranks members) := by
  refine ⟨ranks.below (.member "modules") [], nodup_inOrder h.nodup ranks,
    forall_key_inOrder (fun key => Text.lower key = key) h.lower ranks, ?_⟩
  rw [get?_inOrder h.nodup, h.levels, Option.map_some, inOrder_table, inOrder_printedModules]

theorem mergeAll_modules (before pairs : List (String × String)) :
    mergeAll (.table (printedModules source before)) (printedModules source pairs) =
      .table (printedModules source
        (pairs.foldl (fun names pair => Entries.put (Text.lower pair.1) pair.2 names) before)) := by
  induction pairs generalizing before with
  | nil => rfl
  | cons pair rest ih =>
    have hPut : Entries.put (Text.lower pair.1) (ofText source pair.2)
        (printedModules source before) =
          printedModules source (Entries.put (Text.lower pair.1) pair.2 before) :=
      (Entries.put_map (ofText source) _ _ _).symm
    rw [List.foldl_cons, ← ih, ← hPut]
    rfl

theorem combine_modules (pairs : List (String × String)) :
    combine none (.table (printedModules source pairs)) =
      .table (printedModules source (foldKeys pairs).toList) := by
  have hFolded : (foldKeys pairs).toList = pairs.foldl
      (fun names pair => Entries.put (Text.lower pair.1) pair.2 names) [] :=
    (KeyMap.entries_ofList _).trans List.foldl_map
  rw [hFolded]
  exact mergeAll_modules [] pairs

theorem combine_none_table (members : Members) :
    ∃ after, combine none (.table members) = .table after :=
  mergeAll_induction (motive := fun value => ∃ after, value = .table after) ⟨[], rfl⟩
    fun _ _ _ _ => ⟨_, rfl⟩

theorem get?_combine_none {name : String} (hDistinct : (members.map Prod.fst).Nodup)
    (hLower : ∀ member ∈ members, Text.lower member.1 = member.1) (hName : Text.lower name = name) :
    Entries.get? name (combine none (.table members)).members =
      (Entries.get? name members).map (combine none) := by
  have hPlain : ∀ member ∈ members, Text.lower member.1 = name → member.1 = name :=
    fun member hMember hEq => (hLower member hMember).symm.trans hEq
  rw [combine, get?_mergeAll hDistinct hName hPlain]
  cases Entries.get? name members <;> rfl

theorem HasLevels.combine (h : HasLevels source pairs members) :
    ∃ after, Value.combine none (.table members) = .table after ∧
      HasLevels source (foldKeys pairs).toList after := by
  obtain ⟨after, hAfter⟩ := combine_none_table members
  have hOrdered : Ordered (.table after) := hAfter ▸ ordered_combine (by simp) _
  have hLowered : Lowered (.table after) := hAfter ▸ lowered_combine (by simp) _
  have hGet := get?_combine_none h.nodup h.lower
    (lower_fieldName "modules" (by simp [fieldNames]))
  rw [h.levels, Option.map_some, combine_modules, hAfter] at hGet
  exact ⟨after, hAfter, hOrdered.distinct.nodup, hLowered.lower_key, hGet⟩

theorem textMap_modules (rank : String → Nat) (pairs : List (String × String)) :
    (Value.table (printedModules source pairs)).textMap rank =
      .ok (.ofKeyMap rank (.ofList pairs)) := by
  have hTexts : ∀ pairs, texts (printedModules source pairs) = .ok pairs := by
    intro pairs
    induction pairs with
    | nil => rfl
    | cons pair rest ih =>
      rw [printedModules, List.map_cons, texts]
      change (texts (printedModules source rest) >>= _) = _
      rw [ih]
      rfl
  rw [textMap, hTexts]
  rfl

end Levels

section Gather
variable {layer : Members} {source : String} {settings reloaded : Settings}

theorem lower_topName : ∀ name ∈ topNames, Text.lower name = name :=
  fun name hName => lower_fieldName name (by revert hName; revert name; decide)

theorem setAll_eq_mergeAll (h : ∀ member ∈ layer, member.1 ∈ topNames) (root : Value) :
    root.setAll layer = mergeAll root layer := by
  induction layer generalizing root with
  | nil => rfl
  | cons member rest ih =>
    obtain ⟨hMember, hRest⟩ := List.forall_mem_cons.mp h
    rw [setAll_cons, route_of_mem_topNames hMember, ih hRest]
    rfl

theorem mem_topNames_combine (h : ∀ member ∈ layer, member.1 ∈ topNames) :
    ∀ member ∈ (combine none (.table layer)).members, member.1 ∈ topNames := by
  refine mergeAll_induction (motive := fun v => ∀ member ∈ v.members, member.1 ∈ topNames) ?_ ?_
  · exact List.forall_mem_nil _
  · intro target hTarget member hMember other hOther
    have hLower := lower_topName _ (h member hMember)
    rcases Entries.mem_put hOther with rfl | hOther
    · rw [hLower]
      exact h member hMember
    · exact hTarget other hOther

theorem hasLevels_printedLogging (source : String) (settings : Settings) :
    HasLevels source settings.logging.modules.toKeyMap.toList
      (printedLogging source settings.logging) where
  nodup := ((ordered_printed source settings).distinct.member
    ("logging", _) (by simp [printed])).nodup
  lower member hMember := lower_fieldName _ (names_printedLogging settings.logging member hMember)
  levels := by simp [printedLogging]

/-- What the layers leave at logging, once both passes are through. -/
theorem logging_gather (order : Order) (source : String) (settings : Settings) :
    ∃ rank inner, Entries.get? "logging" (gather order [printed source settings, []]).members =
        some (.table inner) ∧
      HasLevels source
        (foldKeys (Entries.arrange rank settings.logging.modules.toKeyMap.toList)).toList inner := by
  have hTop : ∀ member ∈ Members.inOrder (order.ranks (.layer 0)) (printed source settings),
      member.1 ∈ topNames :=
    forall_key_inOrder (· ∈ topNames) (names_printed settings) _
  have hDistinct := (ordered_printed source settings).distinct.nodup
  have hLogging : Text.lower "logging" = "logging" := lower_topName "logging" (by simp [topNames])
  have hThere : Entries.get? "logging" (printed source settings) =
      some (.table (printedLogging source settings.logging)) := by simp [printed]
  -- The first pass merges logging into nothing, the second over defaults that have none.
  obtain ⟨rank, hInOrder⟩ := (hasLevels_printedLogging source settings).inOrder
    ((order.ranks (.layer 0)).below (.member "logging"))
  obtain ⟨first, hFirst, hLevels⟩ := hInOrder.combine
  obtain ⟨rank', hInOrder'⟩ := hLevels.inOrder ((order.ranks .gathered).below (.member "logging"))
  obtain ⟨second, hSecond, hLevels'⟩ := hInOrder'.combine
  rw [foldKeys_foldKeys] at hLevels'
  refine ⟨rank, second, ?_, hLevels'⟩
  obtain ⟨root, hRoot⟩ := combine_none_table
    (Members.inOrder (order.ranks (.layer 0)) (printed source settings))
  have hOrdered : Ordered (.table root) := hRoot ▸ ordered_combine (by simp) _
  have hGet := get?_combine_none (nodup_inOrder hDistinct _)
    (fun member hMember => lower_topName _ (hTop member hMember)) hLogging
  rw [get?_inOrder hDistinct, hThere, Option.map_some, Option.map_some, inOrder_table, hFirst,
    hRoot, members_table] at hGet
  have hAgain : ∀ member ∈ root, member.1 ∈ topNames := by
    have hNames := mem_topNames_combine hTop
    rwa [hRoot] at hNames
  have hAgain' := forall_key_inOrder (· ∈ topNames) hAgain (order.ranks .gathered)
  have hPlain : ∀ member ∈ Members.inOrder (order.ranks .gathered) root,
      Text.lower member.1 = "logging" → member.1 = "logging" :=
    fun member hMember hEq => (lower_topName _ (hAgain' member hMember)).symm.trans hEq
  have hPass : (layersInOrder order 0 [printed source settings, []]).foldl Value.setAll
      (.table []) = .table root := by
    rw [← hRoot]
    exact setAll_eq_mergeAll hTop _
  simp only [gather, hPass, members_table]
  rw [setAll_eq_mergeAll hAgain', get?_mergeAll (nodup_inOrder hOrdered.distinct.nodup _) hLogging
    hPlain, get?_inOrder hOrdered.distinct.nodup, hGet, Option.map_some, inOrder_table]
  exact congrArg some hSecond

theorem modules_of_printed {order : Order}
    (h : ofLayers order [printed source settings, []] = .ok reloaded) :
    FoldedFrom settings.logging.modules reloaded.logging.modules := by
  have hSettings := Except.mapError_eq_ok_iff.mp h
  obtain ⟨rank, inner, hLogging, hLevels⟩ := logging_gather order source settings
  have hDistinct := (ordered_gather order [printed source settings, []]).distinct
  obtain ⟨members, hTable⟩ := gather_table order [printed source settings, []]
  rw [hTable] at hSettings hLogging hDistinct
  obtain ⟨rank', hInOrder⟩ := hLevels.inOrder ((order.ranks .reading).below (.member "logging"))
  have hGet : Entries.get? "logging" (Members.inOrder (order.ranks .reading) members) =
      some (.table (Members.inOrder ((order.ranks .reading).below (.member "logging")) inner)) := by
    rw [get?_inOrder hDistinct.nodup, ← members_table members, hLogging]
    rfl
  obtain ⟨found, hFound, hEq⟩ := logging_of_settings hSettings
  rw [inOrder_table] at hFound
  rcases readField_eq_ok hFound with ⟨-, hNone⟩ | ⟨value, config, hValue, hConfig, rfl⟩
  · rw [hGet] at hNone
    cases hNone
  · rw [hGet] at hValue
    cases hValue
    obtain ⟨levels, hRead, hModules⟩ := modules_of_logging hConfig
    rw [readField_of_get? hInOrder.levels (textMap_modules _ _)] at hRead
    cases hRead
    have hPairs : ∀ pair, pair ∈ Entries.arrange rank settings.logging.modules.toKeyMap.toList ↔
        pair ∈ settings.logging.modules.toList := by
      intro pair
      rw [Entries.mem_arrange_iff, KeyMap.mem_toList_iff, HashMap.get?_toKeyMap_iff]
    refine foldedFrom_ofList hPairs ?_
    · rw [hEq, Option.getD_some, hModules, Option.getD_some, HashMap.toKeyMap_ofKeyMap]
      exact HashMap.toKeyMap_ofKeyMap rank' (foldKeys _)

/-- Settings that are printed are read as they are, but for the names of modules. -/
theorem ofLayers_printed (order : Order) (source : String) (h : TextPaths settings) :
    ∃ reloaded, ofLayers order [printed source settings, []] = .ok reloaded ∧
      (∀ field : Field, field.value reloaded = field.value settings) ∧
      FoldedFrom settings.logging.modules reloaded.logging.modules := by
  have hShaped := wellShaped_printed source settings
  have hDistinct := (ordered_printed source settings).distinct
  have hSound : ∀ layer ∈ [printed source settings, []], Sound .texts layer := by
    refine List.forall_mem_cons.mpr ⟨sound_of_wellShaped hShaped hDistinct, ?_⟩
    exact List.forall_mem_singleton.mpr ⟨⟨by simp, by simp⟩, by simp⟩
  obtain ⟨reloaded, hReloaded, hFields⟩ := ofLayers_of_sound order hSound
  refine ⟨reloaded, hReloaded, fun field => ?_, modules_of_printed hReloaded⟩
  have hSaid : (said field.path (Members.inOrder (order.ranks (.layer 0))
      (printed source settings))).bind field.kind.read = some (field.value settings) := by
    rw [read_said_file hShaped hDistinct, fileSays_printed source h]
  rw [hFields field]
  simp only [layersInOrder, List.reverse_cons, List.reverse_nil, List.nil_append, List.cons_append,
    List.findSome?_cons, hSaid]
  rfl

end Gather

end Fleet.Settings
