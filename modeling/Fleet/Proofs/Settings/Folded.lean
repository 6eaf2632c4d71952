import Fleet.Proofs.Settings.Layers

/-!
# Keys are folded where tables are merged

The layers of settings are gathered in two passes. In the first a key path keeps its names as they
are written, all but the last; but whatever comes out of it is set a second time, and by then every
key that is a path is in lower case. So in the value of all layers every table that is reached
through members alone has its keys in lower case. A table inside an array is not reached so: it was
never merged, and keeps its keys as they are written. Settings have one such table, the levels of
modules, and it is reached through members unless logging is given as an array.
-/
namespace Fleet.Settings
open Value

/-- All tables that are reached through members alone have their keys in lower case. -/
inductive Lowered : Value → Prop where
  | scalar {value : Scalar} {origin : Option String} : Lowered (.scalar value origin)
  | array {items : List Value} {origin : Option String} : Lowered (.array items origin)
  | table {members : Members} : (∀ member ∈ members, Text.lower member.1 = member.1) →
      (∀ member ∈ members, Lowered member.2) → Lowered (.table members)

section Merging
variable {entries : Members} {value target inner : Value} {name : String}

theorem Lowered.lower_key (h : Lowered (.table entries)) :
    ∀ member ∈ entries, Text.lower member.1 = member.1 := by
  cases h with
  | table hKeys _ => exact hKeys

theorem Lowered.member (h : Lowered (.table entries)) : ∀ member ∈ entries, Lowered member.2 := by
  cases h with
  | table _ hMembers => exact hMembers

theorem Lowered.nil : Lowered (.table []) := .table (by simp) (by simp)

theorem Lowered.members (h : Lowered value) : Lowered (.table value.members) := by
  cases h with
  | scalar => exact .nil
  | array => exact .nil
  | table hKeys hMembers => exact .table hKeys hMembers

theorem Lowered.of_get? (h : Lowered value) (hGet : Entries.get? name value.members = some inner) :
    Lowered inner :=
  h.members.member _ (Entries.mem_of_get? hGet)

theorem Lowered.inOrder (h : Lowered value) (ranks : Ranks) : Lowered (value.inOrder ranks) := by
  induction h generalizing ranks with
  | scalar => exact .scalar
  | array => exact .array
  | table hKeys _ ih =>
    have hInOrder := forall_key_inOrder (fun key => Text.lower key = key) hKeys ranks
    refine .table hInOrder fun member hMember => ?_
    obtain ⟨source, hSource, rfl⟩ := mem_inOrder_iff.mp hMember
    exact ih source hSource _

theorem Lowered.put (h : Lowered (.table entries)) (hName : Text.lower name = name)
    (hValue : Lowered value) : Lowered (.table (Entries.put name value entries)) := by
  refine .table (fun member hMember => ?_) fun member hMember => ?_
  · rcases Entries.mem_put hMember with rfl | hMember
    · exact hName
    · exact h.lower_key member hMember
  · rcases Entries.mem_put hMember with rfl | hMember
    · exact hValue
    · exact h.member member hMember

mutual
/-- Whatever is merged in, its keys are folded on the way. -/
theorem lowered_combine {existing : Option Value} (h : ∀ old ∈ existing, Lowered old) :
    (value : Value) → Lowered (combine existing value)
  | .scalar _ _ => .scalar
  | .array _ _ => .array
  | .table incoming => by
    refine lowered_mergeAll ?_ incoming
    cases existing with
    | none => exact .nil
    | some old => exact h old rfl

theorem lowered_mergeAll {target : Value} (h : Lowered target) :
    (incoming : Members) → Lowered (mergeAll target incoming)
  | [] => h
  | (key, value) :: rest => by
    have hOld : ∀ old ∈ Entries.get? (Text.lower key) target.members, Lowered old :=
      fun old hGet => h.of_get? hGet
    exact lowered_mergeAll (h.members.put (Text.lower_lower key) (lowered_combine hOld value)) rest
end

def LoweredSteps (steps : List Step) : Prop :=
  ∀ name, .member name ∈ steps → Text.lower name = name

theorem lowered_setBelow {steps : List Step} (hTarget : Lowered target) (hNonempty : steps ≠ [])
    (hSteps : LoweredSteps steps) : Lowered (target.setBelow value steps) := by
  induction steps generalizing target with
  | nil => exact absurd rfl hNonempty
  | cons step rest ih =>
    cases step with
    | item index => exact .array
    | member key =>
      cases rest with
      | nil => exact lowered_mergeAll hTarget [(key, value)]
      | cons next rest =>
        have hInner : Lowered ((Entries.get? key target.members).getD Value.nil) := by
          cases hGet : Entries.get? key target.members with
          | none => exact .scalar
          | some inner => exact hTarget.of_get? hGet
        have hRest : LoweredSteps (next :: rest) :=
          fun name hName => hSteps name (List.mem_cons_of_mem _ hName)
        exact hTarget.members.put (hSteps key List.mem_cons_self)
          (ih hInner (List.cons_ne_nil _ _) hRest)

end Merging

section Paths
variable {text after : List Char} {name key : String} {index : Int} {steps : List Step} {c : Char}

theorem mem_of_readName (h : readName text = some (name, after))
    (hChar : c ∈ name.toList ∨ c ∈ after) : c ∈ text := by
  unfold readName at h
  simp only at h
  split at h
  · cases h
  · cases h
    rw [String.toList_ofList] at hChar
    rcases hChar with hName | hAfter
    · exact (List.takeWhile_sublist _).subset hName
    · exact (List.dropWhile_sublist _).subset hAfter

theorem readIndex_suffix (h : readIndex text = some (index, after)) : after <:+ text := by
  unfold readIndex at h
  obtain ⟨-, -, h⟩ := Option.bind_eq_some_iff.mp h
  obtain ⟨-, -, h⟩ := Option.bind_eq_some_iff.mp h
  split at h
  · next rest hRest =>
    cases h
    refine (List.suffix_cons ']' _).trans (hRest ▸ ?_)
    refine (List.dropWhile_suffix _).trans ((List.dropWhile_suffix _).trans ?_)
    refine List.IsSuffix.trans ?_ (List.dropWhile_suffix isGap)
    split
    · exact List.drop_suffix _ _
    · exact List.suffix_refl _
  · cases h

theorem mem_of_readSteps {fuel : Nat} (h : readSteps fuel text = some steps)
    (hStep : .member name ∈ steps) (hChar : c ∈ name.toList) : c ∈ text := by
  fun_induction readSteps fuel text generalizing steps with
  | case1 => cases h
  | case2 =>
    cases h
    cases hStep
  | case3 fuel rest ih =>
    obtain ⟨⟨first, after⟩, hName, h⟩ := Option.bind_eq_some_iff.mp h
    obtain ⟨later, hLater, hEq⟩ := Option.bind_eq_some_iff.mp h
    cases hEq
    refine List.mem_cons_of_mem _ (mem_of_readName hName ?_)
    rcases List.mem_cons.mp hStep with hFirst | hRest
    · cases hFirst
      exact .inl hChar
    · exact .inr (ih after hLater hRest)
  | case4 fuel rest ih =>
    obtain ⟨⟨index, after⟩, hIndex, h⟩ := Option.bind_eq_some_iff.mp h
    obtain ⟨later, hLater, hEq⟩ := Option.bind_eq_some_iff.mp h
    cases hEq
    rcases List.mem_cons.mp hStep with hFirst | hRest
    · cases hFirst
    · exact List.mem_cons_of_mem _ ((readIndex_suffix hIndex).subset (ih after hLater hRest))
  | case5 => cases h

theorem mem_of_readPath {first : String} (h : readPath key = some (first, steps))
    (hStep : name = first ∨ .member name ∈ steps) (hChar : c ∈ name.toList) : c ∈ key.toList := by
  obtain ⟨⟨found, after⟩, hName, h⟩ := Option.bind_eq_some_iff.mp h
  obtain ⟨later, hLater, hEq⟩ := Option.bind_eq_some_iff.mp h
  cases hEq
  refine mem_of_readName hName ?_
  rcases hStep with rfl | hStep
  · exact .inl hChar
  · exact .inr (mem_of_readSteps hLater hStep hChar)

theorem loweredSteps_route (h : Text.lower key = key) : LoweredSteps (route key) := by
  intro name hStep
  rcases route_cases key with hRoute | ⟨first, step, steps, hRead, hRoute⟩
  · rw [hRoute, List.mem_singleton] at hStep
    cases hStep
    exact h
  · rw [hRoute, List.mem_cons, Step.member.injEq] at hStep
    refine Text.lower_eq_self_iff.mpr fun c hChar => ?_
    exact Text.lower_eq_self_iff.mp h c (mem_of_readPath hRead hStep hChar)

end Paths

section Gather
variable {root : Value} {layer : Members}

/-- Setting a value at the key folds every name on the way. -/
def Folds (key : String) : Prop := route key = [.member key] ∨ LoweredSteps (route key)

theorem folds_of_lower {key : String} (h : Text.lower key = key) : Folds key :=
  .inr (loweredSteps_route h)

/-- Whatever a layer is written like, the keys that it leaves behind fold all names. -/
theorem folds_setAll (hRoot : ∀ member ∈ root.members, Folds member.1) :
    ∀ member ∈ (root.setAll layer).members, Folds member.1 := by
  refine keys_setAll hRoot (fun member _ _ => folds_of_lower (Text.lower_lower _)) ?_
  intro key name steps hRead
  exact .inl (by rw [route, readPath_name hRead])

theorem lowered_setAll (hRoot : Lowered root) (hLayer : ∀ member ∈ layer, Folds member.1) :
    Lowered (root.setAll layer) := by
  induction layer generalizing root with
  | nil => exact hRoot
  | cons member rest ih =>
    obtain ⟨hMember, hRest⟩ := List.forall_mem_cons.mp hLayer
    rw [setAll_cons]
    refine ih ?_ hRest
    rcases hMember with hRoute | hSteps
    · rw [hRoute]
      exact lowered_mergeAll hRoot [member]
    · exact lowered_setBelow hRoot (route_ne_nil _) hSteps

theorem lowered_defaults : Lowered defaults := by
  have hNames : ∀ name ∈ ["boxes", "document", "linux", "windows"], Text.lower name = name :=
    fun name hName => lower_fieldName name (by revert hName; revert name; decide)
  refine .table (by simpa using ⟨hNames "boxes" (by simp), hNames "document" (by simp)⟩) ?_
  simp only [List.forall_mem_cons, List.not_mem_nil, false_implies, implies_true, and_true]
  refine ⟨.table ?_ ?_, .scalar⟩
  · simpa using ⟨hNames "linux" (by simp), hNames "windows" (by simp)⟩
  · simp only [List.forall_mem_cons, List.not_mem_nil, false_implies, implies_true, and_true]
    exact ⟨.scalar, .scalar⟩

theorem lowered_gather (order : Order) (layers : List Members) : Lowered (gather order layers) := by
  refine lowered_setAll lowered_defaults (forall_key_inOrder Folds ?_ _)
  generalize layersInOrder order 0 layers = layers
  generalize hRoot : Value.table [] = root
  have hStart : ∀ member ∈ root.members, Folds member.1 := by simp [← hRoot]
  clear hRoot
  induction layers generalizing root with
  | nil => exact hStart
  | cons layer rest ih => exact ih _ (folds_setAll hStart)

theorem setAll_table {members : Members} :
    ∃ after, (Value.table members).setAll layer = .table after := by
  have hEmpty : (Shape.record []).fits (.table members) := rfl
  have hLayer : ∀ member ∈ layer, (Shape.record []).fits (member.2.nested (route member.1)) := by
    intro member _
    rcases route_cases member.1 with hRoute | ⟨name, step, steps, -, hRoute⟩
    · rw [hRoute]
      rfl
    · rw [hRoute]
      rfl
  obtain ⟨after, hAfter, -⟩ := Shape.fits_record_iff.mp (fits_setAll hEmpty hLayer)
  exact ⟨after, hAfter⟩

theorem gather_table (order : Order) (layers : List Members) :
    ∃ members, gather order layers = .table members :=
  setAll_table

end Gather

section Modules
variable {map source : HashMap String} {members inner : Members} {settings : Settings}
  {rank : String → Nat}

/-- The names in `map` are those in `source` in lower case. Of names that become the same it has the
level of one. -/
structure FoldedFrom (source map : HashMap String) : Prop where
  level : ∀ name level, map.toKeyMap.get? name = some level →
    ∃ pair ∈ source.toList, Text.lower pair.1 = name ∧ pair.2 = level
  name : ∀ pair ∈ source.toList, ∃ level, map.toKeyMap.get? (Text.lower pair.1) = some level

/-- A level is kept where no other name becomes the same. -/
theorem FoldedFrom.get?_eq (h : FoldedFrom source map) {name level : String}
    (hPair : (name, level) ∈ source.toList)
    (hOnly : ∀ pair ∈ source.toList, Text.lower pair.1 = Text.lower name → pair.1 = name) :
    map.toKeyMap.get? (Text.lower name) = some level := by
  obtain ⟨found, hFound⟩ := h.name _ hPair
  obtain ⟨other, hOther, hLower, rfl⟩ := h.level _ _ hFound
  have hSame : other = (name, level) :=
    List.inj_on_of_nodup_map source.distinct hOther hPair (hOnly other hOther hLower)
  rw [hFound, hSame]

/-- Names in lower case are left alone. -/
theorem FoldedFrom.toKeyMap_eq (h : FoldedFrom source map)
    (hLower : ∀ pair ∈ source.toList, Text.lower pair.1 = pair.1) :
    map.toKeyMap = source.toKeyMap := by
  refine KeyMap.ext_get? fun name => Option.ext fun level => ?_
  rw [source.get?_toKeyMap_iff]
  constructor
  · intro hLevel
    obtain ⟨pair, hPair, rfl, rfl⟩ := h.level name level hLevel
    rwa [hLower pair hPair]
  · intro hPair
    have hOnly : ∀ pair ∈ source.toList, Text.lower pair.1 = Text.lower name → pair.1 = name := by
      intro other hOther hSame
      rw [← hLower other hOther, hSame, hLower _ hPair]
    have hFound := h.get?_eq hPair hOnly
    rwa [hLower _ hPair] at hFound

theorem foldedFrom_ofList {pairs : List (String × String)}
    (hPairs : ∀ pair, pair ∈ pairs ↔ pair ∈ source.toList)
    (hMap : map.toKeyMap = .ofList (pairs.map fun pair => (Text.lower pair.1, pair.2))) :
    FoldedFrom source map where
  level name level hLevel := by
    rw [hMap, KeyMap.get?_ofList_iff] at hLevel
    obtain ⟨_, hMem, rfl⟩ := hLevel.exists_mem
    obtain ⟨pair, hPair, hEq⟩ := List.mem_map.mp hMem
    cases hEq
    exact ⟨pair, (hPairs pair).mp hPair, rfl, rfl⟩
  name pair hPair := by
    rw [hMap, ← KeyMap.mem_keys_iff, KeyMap.mem_keys_ofList_iff, List.map_map]
    exact List.mem_map_of_mem ((hPairs pair).mpr hPair)

theorem modules_of_logging {config : Log.Config}
    (h : (Value.table inner).logging rank = .ok config) :
    ∃ found, readField (textMap rank) (.table inner) ⟨"modules", 6⟩ = .ok found ∧
      config.modules = found.getD HashMap.empty := by
  rw [Value.logging] at h
  obtain ⟨-, -, h⟩ := Except.bind_eq_ok_iff.mp h
  obtain ⟨enabled, -, h⟩ := Except.bind_eq_ok_iff.mp h
  obtain ⟨level, -, h⟩ := Except.bind_eq_ok_iff.mp h
  obtain ⟨format, -, h⟩ := Except.bind_eq_ok_iff.mp h
  obtain ⟨output, -, h⟩ := Except.bind_eq_ok_iff.mp h
  obtain ⟨file, -, h⟩ := Except.bind_eq_ok_iff.mp h
  obtain ⟨color, -, h⟩ := Except.bind_eq_ok_iff.mp h
  obtain ⟨found, hFound, h⟩ := Except.bind_eq_ok_iff.mp h
  cases h
  exact ⟨found, hFound, rfl⟩

theorem logging_of_settings {value : Value} (h : value.settings rank = .ok settings) :
    ∃ found, readField (Value.logging rank) value ⟨"logging", 2⟩ = .ok found ∧
      settings.logging = found.getD .standard := by
  rw [Value.settings] at h
  obtain ⟨-, -, h⟩ := Except.bind_eq_ok_iff.mp h
  obtain ⟨document, -, h⟩ := Except.bind_eq_ok_iff.mp h
  cases document with
  | none => cases h
  | some document =>
    obtain ⟨boxes, -, h⟩ := Except.bind_eq_ok_iff.mp h
    cases boxes with
    | none => cases h
    | some boxes =>
      obtain ⟨found, hFound, h⟩ := Except.bind_eq_ok_iff.mp h
      cases h
      exact ⟨found, hFound, rfl⟩

theorem readField_eq_ok {α : Type} {read : Value → Except Misfit α} {found : Option α}
    {name : String} {index : Nat} (h : readField read (.table members) ⟨name, index⟩ = .ok found) :
    (found = none ∧ Entries.get? name members = none) ∨
      ∃ value result, Entries.get? name members = some value ∧ read value = .ok result ∧
        found = some result := by
  cases hGet : Entries.get? name members with
  | none =>
    rw [readField_of_get?_none read hGet] at h
    cases h
    exact .inl ⟨rfl, rfl⟩
  | some value =>
    simp only [readField, fieldValue?, hGet, Option.map_some] at h
    obtain ⟨result, hResult, rfl⟩ := Except.map_eq_ok_iff.mp h
    exact .inr ⟨value, result, rfl, Except.mapError_eq_ok_iff.mp hResult, rfl⟩

theorem keys_of_texts {pairs : List (String × String)} (h : texts members = .ok pairs) :
    ∀ pair ∈ pairs, ∃ member ∈ members, member.1 = pair.1 := by
  induction members generalizing pairs with
  | nil =>
    cases h
    simp
  | cons member rest ih =>
    obtain ⟨first, -, h⟩ := Except.bind_eq_ok_iff.mp h
    obtain ⟨later, hLater, h⟩ := Except.bind_eq_ok_iff.mp h
    cases h
    intro pair hPair
    rcases List.mem_cons.mp hPair with rfl | hPair
    · exact ⟨member, List.mem_cons_self, rfl⟩
    · obtain ⟨other, hOther, hKey⟩ := ih hLater pair hPair
      exact ⟨other, List.mem_cons_of_mem _ hOther, hKey⟩

theorem lower_of_textMap {value : Value} (hLowered : Lowered value)
    (h : value.textMap rank = .ok map) : ∀ pair ∈ map.toList, Text.lower pair.1 = pair.1 := by
  cases value with
  | scalar _ _ => cases h
  | array _ _ => cases h
  | table entries =>
    obtain ⟨pairs, hPairs, rfl⟩ := Except.map_eq_ok_iff.mp h
    intro pair hPair
    have hSorted : pair ∈ (KeyMap.ofList pairs).toList := Entries.mem_arrange_iff.mp hPair
    rw [KeyMap.toList, KeyMap.entries_ofList] at hSorted
    obtain ⟨source, hSource, rfl⟩ := (Entries.mem_foldl_put hSorted).resolve_left (by simp)
    obtain ⟨member, hMember, hKey⟩ := keys_of_texts hPairs source hSource
    rw [← hKey]
    exact hLowered.lower_key member hMember

theorem lower_of_logging {config : Log.Config} (hLowered : Lowered (.table inner))
    (h : (Value.table inner).logging rank = .ok config) :
    ∀ pair ∈ config.modules.toList, Text.lower pair.1 = pair.1 := by
  obtain ⟨found, hFound, hModules⟩ := modules_of_logging h
  rw [hModules]
  rcases readField_eq_ok hFound with ⟨rfl, -⟩ | ⟨value, map, hGet, hMap, rfl⟩
  · exact fun pair hPair => absurd hPair List.not_mem_nil
  · exact lower_of_textMap (hLowered.of_get? hGet) hMap

theorem lower_of_settings (h : (Value.table members).settings rank = .ok settings)
    (hLowered : Lowered (.table members))
    (hLogging : ∀ items origin, Entries.get? "logging" members ≠ some (.array items origin)) :
    ∀ pair ∈ settings.logging.modules.toList, Text.lower pair.1 = pair.1 := by
  obtain ⟨found, hFound, hConfig⟩ := logging_of_settings h
  rw [hConfig]
  rcases readField_eq_ok hFound with ⟨rfl, -⟩ | ⟨value, config, hGet, hRead, rfl⟩
  · exact fun pair hPair => absurd hPair List.not_mem_nil
  · cases value with
    | scalar _ _ => cases hRead
    | array items origin => exact absurd hGet (hLogging items origin)
    | table inner => exact lower_of_logging (hLowered.of_get? hGet) hRead

/-- Settings from layers name their modules in lower case, unless logging is given as an array. -/
theorem lower_of_ofLayers {order : Order} {layers : List Members}
    (h : ofLayers order layers = .ok settings)
    (hLogging : ∀ items origin,
      Entries.get? "logging" (gather order layers).members ≠ some (.array items origin)) :
    ∀ pair ∈ settings.logging.modules.toList, Text.lower pair.1 = pair.1 := by
  have hSettings := Except.mapError_eq_ok_iff.mp h
  have hLowered := (lowered_gather order layers).inOrder (order.ranks .reading)
  have hDistinct := (ordered_gather order layers).distinct
  obtain ⟨members, hTable⟩ := gather_table order layers
  rw [hTable] at hSettings hLowered hLogging hDistinct
  rw [inOrder_table] at hSettings hLowered
  refine lower_of_settings hSettings hLowered fun items origin hArray => ?_
  rw [get?_inOrder hDistinct.nodup, Option.map_eq_some_iff] at hArray
  obtain ⟨value, hGet, hValue⟩ := hArray
  cases value with
  | scalar _ _ => cases hValue
  | array items origin => exact hLogging items origin hGet
  | table _ => cases hValue

end Modules

end Fleet.Settings
