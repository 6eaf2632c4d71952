import Fleet.Proofs.Except
import Fleet.Proofs.Settings.Order

/-!
# Reading a value of the right shape

A value that has the shape of settings, and has the fields without which there are none, reads as
settings. Each field is what the value has at its path, or the standard. A table in which each key
stands once is tried member by member before it is read, and that finds nothing if its fields read.
-/
namespace Fleet.Settings
open Value

variable {α : Type} {kind : FieldKind} {fields : List (String × Shape)} {name : String}
  {record value : Value} {rank : String → Nat}

/-- A reader that takes from a scalar what a field of this kind takes from it. -/
def FieldKind.ReadBy (kind : FieldKind) (read : Value → Except Misfit α) (wrap : α → FieldValue) :
    Prop :=
  ∀ x origin taken, kind.read x = some taken →
    ∃ result, read (.scalar x origin) = .ok result ∧ wrap result = taken

theorem readBy_text : FieldKind.text.ReadBy Value.text .text := by
  intro x origin taken h
  cases x with
  | string s =>
    cases h
    exact ⟨s, rfl, rfl⟩
  | _ => cases h

theorem readBy_path : FieldKind.path.ReadBy Value.path .path := by
  intro x origin taken h
  cases x with
  | string s =>
    cases h
    exact ⟨.ofText s, rfl, rfl⟩
  | _ => cases h

theorem readBy_flag : FieldKind.flag.ReadBy Value.flag .flag := by
  intro x origin taken h
  cases x with
  | bool b =>
    cases h
    exact ⟨b, rfl, rfl⟩
  | string s =>
    simp only [FieldKind.read] at h
    simp only [Value.flag]
    split at h
    · next hTrue =>
      cases h
      exact ⟨true, by rw [if_pos hTrue], rfl⟩
    · next hTrue =>
      split at h
      · next hFalse =>
        cases h
        exact ⟨false, by rw [if_neg hTrue, if_pos hFalse], rfl⟩
      · cases h
  | _ => cases h

theorem readBy_place : FieldKind.place.ReadBy Value.optionalPath .place := by
  intro x origin taken h
  cases x with
  | string s =>
    cases h
    exact ⟨some (.ofText s), rfl, rfl⟩
  | null =>
    cases h
    exact ⟨none, rfl, rfl⟩
  | _ => cases h

theorem readField_of_get? {read : Value → Except Misfit α} {members : Members} {found : α}
    (hGet : Entries.get? name members = some value) (hRead : read value = .ok found)
    (index : Nat) : readField read (.table members) ⟨name, index⟩ = .ok (some found) := by
  simp [readField, fieldValue?, hGet, hRead, Except.mapError, Except.map]

theorem readField_of_get?_none (read : Value → Except Misfit α) {members : Members}
    (hGet : Entries.get? name members = none) (index : Nat) :
    readField read (.table members) ⟨name, index⟩ = .ok none := by
  simp [readField, fieldValue?, hGet]

section Trials
variable {trials : List (String × (Value → Except Misfit Unit))} {members : Members}

/-- Members that are tried in vain may be left out. -/
theorem tryMembers_filter (p : String → Bool) (h : ∀ member ∈ members, p member.1 = false →
    ∀ trial ∈ trials, trial.1 = member.1 → trial.2 member.2 = .ok ()) :
    tryMembers trials members = tryMembers trials (members.filter fun member => p member.1) := by
  induction members with
  | nil => rfl
  | cons member rest ih =>
    obtain ⟨key, value⟩ := member
    obtain ⟨hMember, hRest⟩ := List.forall_mem_cons.mp h
    cases hKeep : p key with
    | true => rw [List.filter_cons, if_pos hKeep, tryMembers, tryMembers, ih hRest]
    | false =>
      rw [List.filter_cons, if_neg (by simp [hKeep]), tryMembers, ← ih hRest]
      split
      · rfl
      · next trial hTrial =>
        have hKey : trial.1 = key := by simpa using List.find?_some hTrial
        rw [hMember hKeep trial (List.mem_of_find?_eq_some hTrial) hKey]
        rfl

/-- A table of distinct keys is tried in vain if what it has for each field can be read. -/
theorem tryFields_eq_ok (hDistinct : (members.map Prod.fst).Nodup)
    (h : ∀ trial ∈ trials, ∀ value, Entries.get? trial.1 members = some value →
      trial.2 value = .ok ()) : tryFields trials (.table members) = .ok () := by
  have hAll : ∀ member ∈ members, ∀ trial ∈ trials, trial.1 = member.1 →
      trial.2 member.2 = .ok () := by
    intro member hMember trial hTrial hKey
    refine h trial hTrial member.2 ?_
    rw [hKey]
    exact (Entries.get?_eq_some_iff_mem hDistinct).mpr hMember
  rw [tryFields, tryMembers_filter (fun _ => false) fun member hMember _ => hAll member hMember,
    List.filter_false]
  rfl

theorem asks_of_readField {read : Value → Except Misfit α} {found : Option α} {index : Nat}
    (h : readField read (.table members) ⟨name, index⟩ = .ok found)
    (hGet : Entries.get? name members = some value) : asks read value = .ok () := by
  simp only [readField, fieldValue?, hGet, Option.map_some] at h
  obtain ⟨result, hResult, -⟩ := Except.map_eq_ok_iff.mp h
  rw [asks, Except.mapError_eq_ok_iff.mp hResult]
  rfl

end Trials

theorem readField_of_fits (name : String) {read : Value → Except Misfit α}
    {wrap : α → FieldValue} (hRead : kind.ReadBy read wrap) (h : (Shape.record fields).fits record)
    (hField : (name, Shape.field kind) ∈ fields) (hName : name ∈ fieldNames) (index : Nat) :
    ∃ found, readField read record ⟨name, index⟩ = .ok found ∧
      (record.leaf? [name]).bind kind.read = found.map wrap := by
  obtain ⟨members, rfl, hMembers⟩ := Shape.fits_record_iff.mp h
  cases hGet : Entries.get? name members with
  | none => exact ⟨none, readField_of_get?_none read hGet index, by simp [hGet]⟩
  | some value =>
    have hMember := Entries.mem_of_get? hGet
    obtain ⟨x, origin, rfl, hSome⟩ :=
      Shape.fits_field_iff.mp (hMembers _ hField _ hMember (lower_fieldName name hName)).2
    obtain ⟨taken, hTaken⟩ := Option.isSome_iff_exists.mp hSome
    obtain ⟨result, hResult, rfl⟩ := hRead x origin taken hTaken
    refine ⟨some result, readField_of_get? hGet hResult index, ?_⟩
    simp [hGet, hTaken]

theorem isText.read (h : value.isText) : ∃ text, value.text = .ok text := by
  cases value with
  | scalar x origin => cases x <;> first | exact ⟨_, rfl⟩ | cases h
  | array => cases h
  | table => cases h

theorem texts_of_isText {members : Members} (h : ∀ member ∈ members, member.2.isText) :
    ∃ pairs, texts members = .ok pairs := by
  induction members with
  | nil => exact ⟨[], rfl⟩
  | cons member rest ih =>
    obtain ⟨key, value⟩ := member
    obtain ⟨hFirst, hRest⟩ := List.forall_mem_cons.mp h
    obtain ⟨text, hText⟩ := isText.read hFirst
    obtain ⟨pairs, hPairs⟩ := ih hRest
    refine ⟨(key, text) :: pairs, ?_⟩
    rw [texts, hText, hPairs]
    rfl

theorem textMap_of_fits (rank : String → Nat) (h : Shape.texts.fits value) :
    ∃ map, value.textMap rank = .ok map := by
  obtain ⟨members, rfl, hMembers⟩ := Shape.fits_texts_iff.mp h
  obtain ⟨pairs, hPairs⟩ := texts_of_isText hMembers
  exact ⟨.ofKeyMap rank (.ofList pairs), by rw [textMap, hPairs]; rfl⟩

theorem readModules_of_fits (name : String) (rank : String → Nat)
    (h : (Shape.record fields).fits record)
    (hField : (name, Shape.texts) ∈ fields) (hName : name ∈ fieldNames) (index : Nat) :
    ∃ found, readField (textMap rank) record ⟨name, index⟩ = .ok found := by
  obtain ⟨members, rfl, hMembers⟩ := Shape.fits_record_iff.mp h
  cases hGet : Entries.get? name members with
  | none => exact ⟨none, readField_of_get?_none _ hGet index⟩
  | some value =>
    have hMember := Entries.mem_of_get? hGet
    obtain ⟨map, hMap⟩ :=
      textMap_of_fits rank (hMembers _ hField _ hMember (lower_fieldName name hName)).2
    exact ⟨some map, readField_of_get? hGet hMap index⟩

theorem isRecord_of_fits (h : (Shape.record fields).fits value) : value.isRecord = true := by
  obtain ⟨members, rfl, -⟩ := Shape.fits_record_iff.mp h
  rfl

/-- What a value of the right shape is read as at the fields below `first`. -/
def ReadsBelow (first : String) (value : Value) (settings : Settings) : Prop :=
  ∀ (field : Field) (name : String), field.path = [first, name] →
    field.value settings =
      ((value.leaf? [name]).bind field.kind.read).getD (field.value .standard)

theorem asks_textMap (rank other : String → Nat) (value : Value) :
    asks (textMap rank) value = asks (textMap other) value := by
  cases value with
  | scalar x origin => rfl
  | array items origin => rfl
  | table members =>
    simp only [asks, textMap]
    cases texts members <;> rfl

theorem logging_of_fits (rank : String → Nat) (hDistinct : Distinct value)
    (h : (Shape.record (logFields .texts)).fits value) :
    ∃ config, value.logging rank = .ok config ∧
      ∀ settings : Settings, settings.logging = config → ReadsBelow "logging" value settings := by
  obtain ⟨enabled, hEnabled, hEnabled'⟩ :=
    readField_of_fits "enabled" readBy_flag h (by simp [logFields]) (by simp [fieldNames]) 0
  obtain ⟨level, hLevel, hLevel'⟩ :=
    readField_of_fits "level" readBy_text h (by simp [logFields]) (by simp [fieldNames]) 1
  obtain ⟨format, hFormat, hFormat'⟩ :=
    readField_of_fits "format" readBy_text h (by simp [logFields]) (by simp [fieldNames]) 2
  obtain ⟨output, hOutput, hOutput'⟩ :=
    readField_of_fits "output" readBy_text h (by simp [logFields]) (by simp [fieldNames]) 3
  obtain ⟨file, hFile, hFile'⟩ :=
    readField_of_fits "file" readBy_place h (by simp [logFields]) (by simp [fieldNames]) 4
  obtain ⟨color, hColor, hColor'⟩ :=
    readField_of_fits "color" readBy_flag h (by simp [logFields]) (by simp [fieldNames]) 5
  obtain ⟨modules, hModules⟩ :=
    readModules_of_fits "modules" rank h (by simp [logFields]) (by simp [fieldNames]) 6
  obtain ⟨members, rfl, -⟩ := Shape.fits_record_iff.mp h
  have hTry : tryFields logTrials (.table members) = .ok () := by
    refine tryFields_eq_ok hDistinct.nodup fun trial hTrial value hGet => ?_
    simp only [logTrials, List.mem_cons, List.not_mem_nil, or_false] at hTrial
    rcases hTrial with rfl | rfl | rfl | rfl | rfl | rfl | rfl
    · exact asks_of_readField hEnabled hGet
    · exact asks_of_readField hLevel hGet
    · exact asks_of_readField hFormat hGet
    · exact asks_of_readField hOutput hGet
    · exact asks_of_readField hFile hGet
    · exact asks_of_readField hColor hGet
    · exact (asks_textMap _ rank value).trans (asks_of_readField hModules hGet)
  let draft : Log.Config.Draft := ⟨enabled, level, format, output, file, color, modules⟩
  refine ⟨draft.finish, ?_, fun settings hSettings field name hPath => ?_⟩
  · rw [Value.logging, isRecord_of_fits h, hTry, hEnabled, hLevel, hFormat, hOutput, hFile, hColor,
      hModules]
    rfl
  · cases field
    case document | linux | windows => simp [Field.path] at hPath
    case file =>
      cases hPath
      simp only [Field.kind, Field.value, hFile', hSettings]
      cases file <;> rfl
    all_goals
      cases hPath
      simp only [Field.kind, Field.value, hEnabled', hLevel', hFormat', hOutput', hColor',
        hSettings, Option.getD_map]
      rfl

/-- A field that is there is read. -/
theorem readField_of_leaf? (name : String) {read : Value → Except Misfit α}
    {wrap : α → FieldValue} (hRead : kind.ReadBy read wrap) (h : (Shape.record fields).fits record)
    (hField : (name, Shape.field kind) ∈ fields) (hName : name ∈ fieldNames)
    (hLeaf : (record.leaf? [name]).isSome) (index : Nat) :
    ∃ found, readField read record ⟨name, index⟩ = .ok (some found) ∧
      (record.leaf? [name]).bind kind.read = some (wrap found) := by
  obtain ⟨found, hFound, hTaken⟩ := readField_of_fits name hRead h hField hName index
  obtain ⟨x, hX⟩ := Option.isSome_iff_exists.mp hLeaf
  have hSome := (Shape.Leads.member hField (lower_fieldName name hName) .here).read_leaf? h hX
  rw [hX, Option.bind_some] at hTaken ⊢
  rw [hTaken, Option.isSome_map] at hSome
  obtain ⟨result, rfl⟩ := Option.isSome_iff_exists.mp hSome
  exact ⟨result, hFound, hTaken⟩

theorem fallbackBoxes_of_fits (hDistinct : Distinct value)
    (h : (Shape.record boxFields).fits value)
    (hLinux : (value.leaf? ["linux"]).isSome) (hWindows : (value.leaf? ["windows"]).isSome) :
    ∃ boxes, value.fallbackBoxes = .ok boxes ∧
      ∀ settings : Settings, settings.boxes = boxes → ReadsBelow "boxes" value settings := by
  obtain ⟨linux, hRead, hValue⟩ := readField_of_leaf? "linux" readBy_text h
    (by simp [boxFields]) (by simp [fieldNames]) hLinux 0
  obtain ⟨windows, hRead', hValue'⟩ := readField_of_leaf? "windows" readBy_text h
    (by simp [boxFields]) (by simp [fieldNames]) hWindows 1
  obtain ⟨members, rfl, -⟩ := Shape.fits_record_iff.mp h
  have hTry : tryFields boxTrials (.table members) = .ok () := by
    refine tryFields_eq_ok hDistinct.nodup fun trial hTrial value hGet => ?_
    simp only [boxTrials, List.mem_cons, List.not_mem_nil, or_false] at hTrial
    rcases hTrial with rfl | rfl
    · exact asks_of_readField hRead hGet
    · exact asks_of_readField hRead' hGet
  refine ⟨⟨linux, windows⟩, ?_, fun settings hSettings field name hPath => ?_⟩
  · rw [fallbackBoxes, isRecord_of_fits h, hTry, hRead]
    change (readField text (.table members) ⟨"windows", 1⟩ >>= _) = _
    rw [hRead']
    rfl
  · cases field
    case linux | windows =>
      cases hPath
      simp only [Field.kind, Field.value, hValue, hValue', hSettings]
      rfl
    all_goals simp [Field.path] at hPath

/-- The settings have at the field what the value has there, or the standard. -/
def Field.Follows (value : Value) (settings : Settings) (field : Field) : Prop :=
  field.value settings =
    ((value.leaf? field.path).bind field.kind.read).getD (field.value .standard)

theorem ReadsBelow.follows {first : String} {members : Members} {settings : Settings}
    (h : ReadsBelow first value settings) (hGet : Entries.get? first members = some value)
    {field : Field} (hPath : field.path = [first, name]) :
    field.Follows (.table members) settings := by
  rw [Field.Follows, h field name hPath, hPath]
  simp [hGet]

theorem readBoxes_of_fits (hDistinct : Distinct value) (h : (settingsShape .texts).fits value)
    (hLinux : (value.leaf? ["boxes", "linux"]).isSome)
    (hWindows : (value.leaf? ["boxes", "windows"]).isSome) :
    ∃ boxes, readField fallbackBoxes value ⟨"boxes", 1⟩ = .ok (some boxes) ∧
      ∀ (settings : Settings) (field : Field) (name : String), settings.boxes = boxes →
        field.path = ["boxes", name] → field.Follows value settings := by
  obtain ⟨members, rfl, hMembers⟩ := Shape.fits_record_iff.mp h
  obtain ⟨inner, hGet⟩ := Option.isSome_iff_exists.mp (Option.isSome_of_isSome_bind hLinux)
  obtain ⟨-, hFits⟩ := hMembers ("boxes", .record boxFields) (by simp [topFields]) _
    (Entries.mem_of_get? hGet) (lower_fieldName _ (by simp [fieldNames]))
  rw [leaf?_cons, hGet, Option.bind_some] at hLinux hWindows
  obtain ⟨boxes, hRead, hBelow⟩ := fallbackBoxes_of_fits
    (hDistinct.member _ (Entries.mem_of_get? hGet)) hFits hLinux hWindows
  refine ⟨boxes, readField_of_get? hGet hRead 1, fun settings field name hBoxes hPath => ?_⟩
  exact (hBelow settings hBoxes).follows hGet hPath

theorem readLogging_of_fits (rank : String → Nat) (hDistinct : Distinct value)
    (h : (settingsShape .texts).fits value) :
    ∃ found, readField (Value.logging rank) value ⟨"logging", 2⟩ = .ok found ∧
      ∀ (settings : Settings) (field : Field) (name : String),
        settings.logging = found.getD .standard → field.path = ["logging", name] →
          field.Follows value settings := by
  obtain ⟨members, rfl, hMembers⟩ := Shape.fits_record_iff.mp h
  cases hGet : Entries.get? "logging" members with
  | none =>
    refine ⟨none, readField_of_get?_none _ hGet 2,
      fun settings field name hEq hPath => ?_⟩
    rw [Field.Follows, hPath]
    simp only [leaf?_cons, members_table, hGet, Option.bind_none, Option.getD_none]
    cases field
    case document | linux | windows => simp [Field.path] at hPath
    all_goals simp [Field.value, hEq, Settings.standard]
  | some inner =>
    obtain ⟨-, hFits⟩ := hMembers ("logging", .record (logFields .texts)) (by simp [topFields]) _
      (Entries.mem_of_get? hGet) (lower_fieldName _ (by simp [fieldNames]))
    obtain ⟨config, hRead, hBelow⟩ := logging_of_fits rank
      (hDistinct.member _ (Entries.mem_of_get? hGet)) hFits
    refine ⟨some config, readField_of_get? hGet hRead 2, fun settings field name hEq hPath => ?_⟩
    exact (hBelow settings hEq).follows hGet hPath

theorem asks_readField {read other : Value → Except Misfit α}
    (h : ∀ value, asks read value = asks other value) (record : Value) (place : FieldPlace) :
    (readField read record place).map (fun _ => ()) =
      (readField other record place).map fun _ => () := by
  simp only [readField]
  cases record.fieldValue? place with
  | none => rfl
  | some found =>
    obtain ⟨step, value⟩ := found
    rcases Except.map_eq_map_iff.mp (h value) with
      ⟨misfit, hRead, hOther⟩ | ⟨result, result', hRead, hOther, -⟩
    · simp only [hRead, hOther]
    · simp only [hRead, hOther]
      rfl

/-- The ranks of modules do not matter to whether logging is read. -/
theorem asks_logging (rank other : String → Nat) (value : Value) :
    asks (Value.logging rank) value = asks (Value.logging other) value := by
  have hModules := asks_readField (asks_textMap rank other) value ⟨"modules", 6⟩
  unfold asks Value.logging
  split
  · rfl
  · -- Modules are read last, and all that comes before them is the same on both sides.
    iterate 7 refine Except.map_bind_congr fun _ => ?_
    rcases Except.map_eq_map_iff.mp hModules with
      ⟨misfit, hRead, hOther⟩ | ⟨found, found', hRead, hOther, -⟩
    · rw [hRead, hOther]
    · rw [hRead, hOther]
      rfl

/-- A value of the right shape that has the document and both boxes reads as settings. -/
theorem settings_of_fits (rank : String → Nat) (hDistinct : Distinct value)
    (h : (settingsShape .texts).fits value)
    (hDocument : (value.leaf? ["document"]).isSome)
    (hLinux : (value.leaf? ["boxes", "linux"]).isSome)
    (hWindows : (value.leaf? ["boxes", "windows"]).isSome) :
    ∃ settings, value.settings rank = .ok settings ∧
      ∀ field : Field, field.Follows value settings := by
  obtain ⟨document, hRead, hTaken⟩ := readField_of_leaf? "document" readBy_path h
    (by simp [topFields]) (by simp [fieldNames]) hDocument 0
  obtain ⟨boxes, hBoxes, hBelowBoxes⟩ := readBoxes_of_fits hDistinct h hLinux hWindows
  obtain ⟨found, hLogging, hBelowLogging⟩ := readLogging_of_fits rank hDistinct h
  obtain ⟨members, rfl, -⟩ := Shape.fits_record_iff.mp h
  have hTry : tryFields topTrials (.table members) = .ok () := by
    refine tryFields_eq_ok hDistinct.nodup fun trial hTrial value hGet => ?_
    simp only [topTrials, List.mem_cons, List.not_mem_nil, or_false] at hTrial
    rcases hTrial with rfl | rfl | rfl
    · exact asks_of_readField hRead hGet
    · exact asks_of_readField hBoxes hGet
    · exact (asks_logging _ rank value).trans (asks_of_readField hLogging hGet)
  refine ⟨⟨document, boxes, found.getD .standard⟩, ?_, fun field => ?_⟩
  · rw [Value.settings, hTry]
    change (readField path (.table members) ⟨"document", 0⟩ >>= _) = _
    rw [hRead]
    change (readField fallbackBoxes (.table members) ⟨"boxes", 1⟩ >>= _) = _
    rw [hBoxes]
    change (readField (Value.logging rank) (.table members) ⟨"logging", 2⟩ >>= _) = _
    rw [hLogging]
    rfl
  · cases field
    case document =>
      change FieldValue.path document =
        (((Value.table members).leaf? ["document"]).bind FieldKind.path.read).getD _
      rw [hTaken]
      rfl
    case linux | windows => exact hBelowBoxes _ _ _ rfl rfl
    all_goals exact hBelowLogging _ _ _ rfl rfl

end Fleet.Settings
