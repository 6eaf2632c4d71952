import Fleet.Proofs.Settings.Folded
import Fleet.Proofs.Settings.Precedence

/-!
# The parts of settings keep apart

Every key of a layer leads to one member of the root. The layers are gathered in two passes, so the
part of settings that a key is about is found by following it twice. What the layers make of a part
depends on what they say about this part, and on the order in which they are gone through. So in one
order the document and the boxes of two runs are the same, or misfit in the same way, whatever their
layers say about logging, as long as what they say about it can be read.
-/
namespace Fleet.Settings
open Value

variable {key name : String} {root : Value} {layer : Members}

/-- The member of the root that a key leads to. -/
def rootName (key : String) : String :=
  match route key with
  | .member name :: _ :: _ => name
  | _ => Text.lower key

/-- What is at this member once `value` is set at the key. -/
def placed (key : String) (value : Value) (old : Option Value) : Value :=
  match route key with
  | .member _ :: step :: steps => (old.getD nil).setBelow value (step :: steps)
  | _ => combine old value

/-- The part of settings that a key of a layer is about. -/
def partName (key : String) : String := rootName (rootName key)

/-- What a layer says about a part. -/
def about (name : String) (layer : Members) : Members :=
  layer.filter fun member => partName member.1 = name

section Gather

theorem members_setKey (root : Value) (key : String) (value : Value) :
    (root.setKey key value).members = Entries.put (rootName key)
      (placed key value (Entries.get? (rootName key) root.members)) root.members := by
  rw [setKey_eq, rootName, placed]
  rcases route_cases key with hRoute | ⟨first, step, steps, -, hRoute⟩
  · rw [hRoute]
    rfl
  · rw [hRoute]
    rfl

/-- A member is what those keys make of it that lead to it. -/
theorem get?_setAll (root : Value) (layer : Members) (name : String) :
    Entries.get? name (root.setAll layer).members =
      (layer.filter fun member => rootName member.1 = name).foldl
        (fun old member => some (placed member.1 member.2 old)) (Entries.get? name root.members) := by
  induction layer generalizing root with
  | nil => rfl
  | cons member rest ih =>
    obtain ⟨key, value⟩ := member
    change Entries.get? name ((root.setKey key value).setAll rest).members = _
    rw [ih, members_setKey]
    by_cases hKey : rootName key = name
    · rw [List.filter_cons_of_pos (by simpa using hKey), List.foldl_cons, hKey,
        Entries.get?_put_self]
    · rw [List.filter_cons_of_neg (by simpa using hKey), Entries.get?_put_of_ne hKey]

theorem ascending_setAll (hRoot : Entries.Ascending root.members) :
    Entries.Ascending (root.setAll layer).members := by
  induction layer generalizing root with
  | nil => exact hRoot
  | cons member rest ih =>
    refine ih ?_
    rw [members_setKey]
    exact hRoot.put _ _

/-- What the first pass leaves to be set over the defaults. -/
def firstPass (layers : List Members) : KeyMap Value :=
  ⟨((Value.table []).setAll layers.flatten).members, ascending_setAll List.Pairwise.nil⟩

theorem gather_eq (order : Order) (layers : List Members) :
    gather order layers = defaults.setAll (Members.inOrder (order.ranks .gathered)
      (firstPass (layersInOrder order 0 layers)).toList) := by
  have hFlat (layers : List Members) : layers.foldl Value.setAll (.table []) =
      (Value.table []).setAll layers.flatten := by
    rw [Value.setAll, List.foldl_flatten]
    rfl
  rw [gather, hFlat]
  rfl

variable {left right : List Members}

theorem about_append (front back : Members) :
    about name (front ++ back) = about name front ++ about name back :=
  List.filter_append front back

theorem about_inOrder (ranks : Ranks) (layer : Members) :
    about name (Members.inOrder ranks layer) = Members.inOrder ranks (about name layer) :=
  filter_inOrder (fun key => partName key = name) ranks layer

/-- Layers that say the same about a part do so in any order. -/
theorem about_layersInOrder (order : Order) (index : Nat)
    (h : left.map (about name) = right.map (about name)) :
    about name (layersInOrder order index left).flatten =
      about name (layersInOrder order index right).flatten := by
  induction left generalizing right index with
  | nil =>
    rw [List.map_eq_nil_iff.mp h.symm]
  | cons layer rest ih =>
    cases right with
    | nil => cases h
    | cons other others =>
      obtain ⟨hLayer, hRest⟩ := List.cons.inj h
      rw [layersInOrder, layersInOrder, List.flatten_cons, List.flatten_cons, about_append,
        about_append, about_inOrder, about_inOrder, hLayer, ih _ hRest]

theorem get?_firstPass_congr (hKey : rootName key = name)
    (h : about name left.flatten = about name right.flatten) :
    (firstPass left).get? key = (firstPass right).get? key := by
  -- The keys that lead to `key` are about the part that `key` leads to.
  have hAbout (layer : Members) : (layer.filter fun member => rootName member.1 = key) =
      (about name layer).filter fun member => rootName member.1 = key := by
    rw [about, List.filter_filter]
    refine List.filter_congr fun member _ => ?_
    by_cases hMember : rootName member.1 = key
    · simp [partName, hMember, hKey]
    · simp [hMember]
  have hGet (layers : List Members) : (firstPass layers).get? key =
      (layers.flatten.filter fun member => rootName member.1 = key).foldl
        (fun old member => some (placed member.1 member.2 old)) none := get?_setAll _ _ _
  rw [hGet, hGet, hAbout, h, ← hAbout]

/-- Layers that say the same about a part make the same of it. -/
theorem get?_gather_congr (order : Order) (h : left.map (about name) = right.map (about name)) :
    Entries.get? name (gather order left).members =
      Entries.get? name (gather order right).members := by
  have hFlat := about_layersInOrder order 0 h
  have hPart : ((firstPass (layersInOrder order 0 left)).toList.filter
      fun member => rootName member.1 = name) =
        (firstPass (layersInOrder order 0 right)).toList.filter
          fun member => rootName member.1 = name :=
    KeyMap.filter_toList_congr fun key hKey =>
      get?_firstPass_congr (of_decide_eq_true hKey) hFlat
  have hFilter (layer : Members) := filter_inOrder (fun key => rootName key = name)
    (order.ranks .gathered) layer
  rw [gather_eq, gather_eq, get?_setAll, get?_setAll, hFilter, hFilter, hPart]

end Gather

section Reading
variable {left right : Members}

def unlogged (settings : Settings) : Settings := { settings with logging := .standard }

theorem unlogged_eq_iff {settings other : Settings} :
    settings.unlogged = other.unlogged ↔
      settings.document = other.document ∧ settings.boxes = other.boxes := by
  simp [unlogged]

/-- What the value says about logging, if anything, can be read. -/
def LoggingReads (value : Value) : Prop :=
  ∃ found, readField (Value.logging fun _ => 0) value ⟨"logging", 2⟩ = .ok found

instance (value : Value) : Decidable (LoggingReads value) :=
  decidable_of_iff
    ((readField (Value.logging fun _ => 0) value ⟨"logging", 2⟩).toOption.isSome = true)
    (by cases hRead : readField (Value.logging fun _ => 0) value ⟨"logging", 2⟩ <;>
      simp [LoggingReads, hRead, Except.toOption])

/-- In no order is logging read in vain, unless it is in all. -/
theorem loggingReads_iff (rank : String → Nat) {value : Value} :
    LoggingReads value ↔
      ∃ found, readField (Value.logging rank) value ⟨"logging", 2⟩ = .ok found := by
  rcases Except.map_eq_map_iff.mp
      (asks_readField (asks_logging rank fun _ => 0) value ⟨"logging", 2⟩) with
    ⟨misfit, hFails, hFails'⟩ | ⟨found, other, hFound, hOther, -⟩
  · simp [LoggingReads, hFails, hFails']
  · simp [LoggingReads, hFound, hOther]

theorem readField_congr {α : Type} {read : Value → Except Misfit α} {index : Nat}
    (h : Entries.get? name left = Entries.get? name right) :
    readField read (.table left) ⟨name, index⟩ = readField read (.table right) ⟨name, index⟩ := by
  simp only [readField, fieldValue?, h]

/-- The parts of settings that have to be there. -/
def isNeeded (name : String) : Bool := name ∈ ["document", "boxes"]

/-- Logging that can be read is tried in vain. -/
theorem tryFields_needed (hDistinct : (left.map Prod.fst).Nodup)
    (h : LoggingReads (.table left)) : tryFields topTrials (.table left) =
      tryMembers topTrials (left.filter fun member => isNeeded member.1) := by
  obtain ⟨found, hFound⟩ := h
  refine tryMembers_filter isNeeded fun member hMember hOther trial hTrial hKey => ?_
  simp only [topTrials, List.mem_cons, List.not_mem_nil, or_false] at hTrial
  rcases hTrial with rfl | rfl | rfl
  · rw [← hKey] at hOther
    exact absurd hOther (by decide)
  · rw [← hKey] at hOther
    exact absurd hOther (by decide)
  · have hGet := (Entries.get?_eq_some_iff_mem hDistinct).mpr hMember
    rw [← hKey] at hGet
    exact asks_of_readField hFound hGet

/-- Apart from logging, settings are what the document and the boxes are read to. -/
theorem unlogged_settings_congr (rank : String → Nat)
    (hLeftDistinct : (left.map Prod.fst).Nodup) (hRightDistinct : (right.map Prod.fst).Nodup)
    (hNeeded : (left.filter fun member => isNeeded member.1) =
      right.filter fun member => isNeeded member.1)
    (hLeft : LoggingReads (.table left)) (hRight : LoggingReads (.table right)) :
    ((Value.table left).settings rank).map unlogged =
      ((Value.table right).settings rank).map unlogged := by
  have hGet (name : String) (hName : isNeeded name = true) :
      Entries.get? name left = Entries.get? name right := by
    refine Option.ext fun value => ?_
    have hMem := congrArg (fun members => (name, value) ∈ members) hNeeded
    simp only [List.mem_filter, hName, and_true] at hMem
    rw [Entries.get?_eq_some_iff_mem hLeftDistinct, Entries.get?_eq_some_iff_mem hRightDistinct,
      hMem]
  have hDocument := hGet "document" (by decide)
  have hBoxes := hGet "boxes" (by decide)
  obtain ⟨config, hConfig⟩ := (loggingReads_iff rank).mp hLeft
  obtain ⟨other, hOther⟩ := (loggingReads_iff rank).mp hRight
  rw [Value.settings, Value.settings, tryFields_needed hLeftDistinct hLeft,
    tryFields_needed hRightDistinct hRight, hNeeded, readField_congr hDocument]
  cases tryMembers topTrials (right.filter fun member => isNeeded member.1) with
  | error misfit => rfl
  | ok _ =>
    simp only [bind, Except.bind]
    cases readField path (.table right) ⟨"document", 0⟩ with
    | error reason => rfl
    | ok document =>
      cases document with
      | none => rfl
      | some document =>
        simp only [readField_congr hBoxes]
        cases readField fallbackBoxes (.table right) ⟨"boxes", 1⟩ with
        | error reason => rfl
        | ok boxes =>
          cases boxes with
          | none => rfl
          | some boxes =>
            simp only [hConfig, hOther]
            rfl

end Reading

/-- What the layers make is read in this order. -/
def gathered (order : Order) (layers : List Members) : Value :=
  (gather order layers).inOrder (order.ranks .reading)

/-- Settings can be read only if what they say about logging can be. -/
theorem loggingReads_of_ofLayers {order : Order} {layers : List Members} {settings : Settings}
    (h : ofLayers order layers = .ok settings) : LoggingReads (gathered order layers) := by
  rw [ofLayers, Except.mapError_eq_ok_iff, Value.settings] at h
  obtain ⟨_, -, h⟩ := Except.bind_eq_ok_iff.mp h
  obtain ⟨document, -, h⟩ := Except.bind_eq_ok_iff.mp h
  cases document with
  | none => cases h
  | some document =>
    obtain ⟨boxes, -, h⟩ := Except.bind_eq_ok_iff.mp h
    cases boxes with
    | none => cases h
    | some boxes =>
      obtain ⟨logging, hLogging, -⟩ := Except.bind_eq_ok_iff.mp h
      exact (loggingReads_iff _).mpr ⟨logging, hLogging⟩

/-- What layers say about logging has no say in anything else. -/
theorem unlogged_ofLayers_congr {left right : List Members} (order : Order)
    (h : ∀ name, isNeeded name = true → left.map (about name) = right.map (about name))
    (hLeft : LoggingReads (gathered order left)) (hRight : LoggingReads (gathered order right)) :
    (ofLayers order left).map unlogged = (ofLayers order right).map unlogged := by
  have hOrdered := ordered_gather order left
  have hOrdered' := ordered_gather order right
  have hGet (name : String) (hName : isNeeded name = true) := get?_gather_congr order (h name hName)
  unfold gathered at hLeft hRight
  unfold ofLayers
  obtain ⟨leftMembers, hLeftTable⟩ := gather_table order left
  obtain ⟨rightMembers, hRightTable⟩ := gather_table order right
  rw [hLeftTable] at hLeft hOrdered hGet ⊢
  rw [hRightTable] at hRight hOrdered' hGet ⊢
  let leftMap : KeyMap Value := ⟨leftMembers, hOrdered.ascending⟩
  let rightMap : KeyMap Value := ⟨rightMembers, hOrdered'.ascending⟩
  have hNeeded : (leftMap.toList.filter fun member => isNeeded member.1) =
      rightMap.toList.filter fun member => isNeeded member.1 := KeyMap.filter_toList_congr hGet
  have hSettings : (((Value.table leftMembers).inOrder (order.ranks .reading)).settings
      (order.ranks .modules [])).map unlogged =
        (((Value.table rightMembers).inOrder (order.ranks .reading)).settings
          (order.ranks .modules [])).map unlogged := by
    have hFilter := filter_inOrder isNeeded (order.ranks .reading)
    refine unlogged_settings_congr _ (nodup_inOrder hOrdered.ascending.nodup_keys _)
      (nodup_inOrder hOrdered'.ascending.nodup_keys _) ?_ hLeft hRight
    exact ((hFilter leftMembers).trans (congrArg _ hNeeded)).trans (hFilter rightMembers).symm
  have hMisfit (read : Except Misfit Settings) :
      (read.mapError SettingsFault.misfit).map unlogged = (read.map unlogged).mapError .misfit := by
    cases read <;> rfl
  rw [hMisfit, hMisfit, hSettings]

section Sources

/-- What a layer says about anything but logging. -/
def withoutLogging (layer : Members) : Members :=
  layer.filter fun member => partName member.1 ≠ "logging"

theorem about_withoutLogging (hName : name ≠ "logging") (layer : Members) :
    about name (withoutLogging layer) = about name layer := by
  rw [about, withoutLogging, List.filter_filter]
  refine List.filter_congr fun member _ => ?_
  by_cases hMember : partName member.1 = name
  · simp [hMember, hName]
  · simp [hMember]

def environmentMap (order : Order) (env : Environment) : KeyMap Value :=
  KeyMap.ofList ((Entries.arrange (order.ranks .variables [])
    (env.startingWith variableStart)).map fun pair => (variableKey pair.1, ofVariable pair.2))

theorem environmentLayer_eq (order : Order) (env : Environment) :
    environmentLayer order env = (environmentMap order env).toList := by
  rw [environmentMap, KeyMap.toList, KeyMap.entries_ofList, List.foldl_map]
  rfl

theorem get?_environmentMap_congr (order : Order) {left right : Environment}
    (h : ∀ variableName, variableStart.toList <+: variableName.toList →
      variableKey variableName = key → left.get? variableName = right.get? variableName) :
    (environmentMap order left).get? key = (environmentMap order right).get? key := by
  have hVariables : ((left.startingWith variableStart).filter fun pair => variableKey pair.1 = key) =
      (right.startingWith variableStart).filter fun pair => variableKey pair.1 = key := by
    rw [Environment.startingWith, Environment.startingWith, List.filter_filter, List.filter_filter]
    refine KeyMap.filter_toList_congr (p := fun variableName =>
      decide (variableKey variableName = key) &&
        variableStart.toList.isPrefixOf variableName.toList) fun variableName hVariable => ?_
    rw [Bool.and_eq_true, decide_eq_true_eq, List.isPrefixOf_iff_prefix] at hVariable
    exact h variableName hVariable.2 hVariable.1
  have hGet (env : Environment) : (environmentMap order env).get? key =
      ((Entries.arrange (order.ranks .variables []) ((env.startingWith variableStart).filter
        fun pair => variableKey pair.1 = key)).map
          fun pair => (variableKey pair.1, ofVariable pair.2)).foldl
            (fun _ pair => some pair.2) none := by
    rw [environmentMap, KeyMap.ofList, KeyMap.get?_insertAll, List.filter_map, Function.comp_def,
      Entries.filter_arrange, KeyMap.get?_empty]
  rw [hGet, hGet, hVariables]

/-- What the environment says about a part, it says in the variables whose keys are about it. -/
theorem about_environmentLayer_congr (order : Order) {left right : Environment}
    (h : ∀ variableName, variableStart.toList <+: variableName.toList →
      partName (variableKey variableName) = name →
        left.get? variableName = right.get? variableName) :
    about name (environmentLayer order left) = about name (environmentLayer order right) := by
  rw [environmentLayer_eq, environmentLayer_eq, about, about]
  refine KeyMap.filter_toList_congr (p := fun key => partName key = name) fun key hKey => ?_
  refine get?_environmentMap_congr order fun variableName hStart hVariable =>
    h variableName hStart ?_
  rw [hVariable]
  exact of_decide_eq_true hKey

end Sources

end Fleet.Settings
