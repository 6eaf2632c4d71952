import Fleet.Proofs.Settings.KeyPath
import Fleet.Proofs.Settings.Reading
import Mathlib.Data.List.TakeWhile

/-!
# Gathering layers

All layers are set in one value, and the members of that value are set over the defaults. So every
key is taken apart twice, and a sound layer is one that stands both: its keys lead where the shape
of settings allows it, and a key that is no path has not become one by being folded. Of sound layers
the last that says something about a field is heard, in whatever order each of them is gone through.
-/
namespace Fleet.Settings
open Value

variable {modules : Shape} {path : List String} {kind : FieldKind} {key name : String}
  {steps : List Step} {layer : Members} {layers : List Members}

def topNames : List String := ["document", "boxes", "logging"]

/-- The key is no path into a field or a record of settings. -/
def isPlain (key : String) : Bool :=
  match route key with
  | .member name :: _ :: _ => Text.lower name ∉ topNames
  | _ => true

/-- Each member of the layer can be set where its key leads. -/
structure Heard (modules : Shape) (layer : Members) : Prop where
  fits : ∀ member ∈ layer, (settingsShape modules).fits (member.2.nested (route member.1))
  distinct : ∀ member ∈ layer, Distinct member.2

structure Sound (modules : Shape) (layer : Members) : Prop extends Heard modules layer where
  plain : ∀ member ∈ layer, route member.1 = [.member member.1] → isPlain (Text.lower member.1)

section Order
variable {order : Order}

theorem Heard.inOrder (h : Heard modules layer) (ranks : Ranks) :
    Heard modules (Members.inOrder ranks layer) where
  fits member hMember := by
    obtain ⟨source, hSource, rfl⟩ := mem_inOrder_iff.mp hMember
    rw [nested_inOrder]
    exact (fits_inOrder_iff _).mpr (h.fits source hSource)
  distinct member hMember := by
    obtain ⟨source, hSource, rfl⟩ := mem_inOrder_iff.mp hMember
    exact (h.distinct source hSource).inOrder _

theorem Sound.inOrder (h : Sound modules layer) (ranks : Ranks) :
    Sound modules (Members.inOrder ranks layer) where
  toHeard := h.toHeard.inOrder ranks
  plain member hMember hRoute := by
    obtain ⟨source, hSource, rfl⟩ := mem_inOrder_iff.mp hMember
    exact h.plain source hSource hRoute

theorem mem_layersInOrder {index : Nat} (h : layer ∈ layersInOrder order index layers) :
    ∃ source ∈ layers, ∃ ranks, layer = Members.inOrder ranks source := by
  induction layers generalizing index with
  | nil => cases h
  | cons first rest ih =>
    rcases List.mem_cons.mp h with rfl | h
    · exact ⟨first, List.mem_cons_self, _, rfl⟩
    · obtain ⟨source, hSource, hEq⟩ := ih h
      exact ⟨source, List.mem_cons_of_mem _ hSource, hEq⟩

theorem sound_layersInOrder (h : ∀ layer ∈ layers, Sound modules layer) {index : Nat} :
    ∀ layer ∈ layersInOrder order index layers, Sound modules layer := by
  intro layer hLayer
  obtain ⟨source, hSource, ranks, rfl⟩ := mem_layersInOrder hLayer
  exact (h source hSource).inOrder ranks

end Order

section Keys

theorem route_cases (key : String) :
    route key = [.member key] ∨ ∃ name step steps,
      readPath key = some (name, step :: steps) ∧ route key = .member name :: step :: steps := by
  unfold route
  split
  · next name step steps hRead => exact .inr ⟨name, step, steps, hRead, rfl⟩
  · exact .inl rfl

theorem readName_self {name : List Char} (hName : name ≠ []) (h : ∀ c ∈ name, isNameChar c) :
    readName name = some (String.ofList name, []) := by
  have hTake : name.takeWhile isNameChar = name := List.takeWhile_eq_self_iff.mpr h
  have hDrop : name.dropWhile isNameChar = [] := List.dropWhile_eq_nil_iff.mpr h
  simp only [readName, hTake, hDrop]
  rw [if_neg (by simpa using hName)]

/-- The first name of a path is a path of its own. -/
theorem readPath_name (h : readPath key = some (name, steps)) :
    readPath name = some (name, []) := by
  obtain ⟨⟨first, rest⟩, hName, hRest⟩ := Option.bind_eq_some_iff.mp h
  obtain ⟨read, -, hEq⟩ := Option.bind_eq_some_iff.mp hRest
  cases hEq
  unfold readName at hName
  simp only at hName
  split at hName
  · cases hName
  · next hNonempty =>
    cases hName
    have hSelf := readName_self (by simpa using hNonempty) fun c => List.mem_takeWhile_imp
    rw [readPath, String.toList_ofList, hSelf]
    rfl

theorem isPlain_name (h : readPath key = some (name, steps)) : isPlain name := by
  rw [isPlain, route, readPath_name h]

theorem route_of_mem_topNames (h : name ∈ topNames) : route name = [.member name] := by
  have hAll : ∀ name ∈ topNames, route name = [.member name] := by decide +kernel
  exact hAll name h

theorem leads_top (hLeads : (settingsShape modules).Leads path kind) :
    ∃ name rest, path = name :: rest ∧ name ∈ topNames ∧ Text.lower name = name := by
  cases hLeads with
  | @member fields name inner rest _ hField hName hLeads =>
    exact ⟨name, rest, rfl, List.mem_map_of_mem (f := Prod.fst) hField, hName⟩

end Keys

section Plain

theorem not_mem_topNames (hPlain : isPlain key) {step : Step}
    (hRoute : route key = .member name :: step :: steps) : Text.lower name ∉ topNames := by
  simpa [isPlain, hRoute] using hPlain

/-- A member under a plain key stands where the shape of its table puts it. -/
theorem fits_nested_of_plain (h : (settingsShape modules).fits (.table layer))
    {member : String × Value} (hMember : member ∈ layer) (hPlain : isPlain member.1) :
    (settingsShape modules).fits (member.2.nested (route member.1)) := by
  obtain ⟨members, hEq, hMembers⟩ := Shape.fits_record_iff.mp h
  cases hEq
  rcases route_cases member.1 with hRoute | ⟨name, step, steps, -, hRoute⟩
  · rw [hRoute]
    exact fits_record_nested_iff.mpr fun field hField => hMembers field hField member hMember
  · rw [hRoute]
    refine fits_record_nested_iff.mpr fun field hField hLower => ?_
    have hTop : field.1 ∈ topNames := List.mem_map_of_mem (f := Prod.fst) hField
    exact absurd (hLower ▸ hTop) (not_mem_topNames hPlain hRoute)

theorem leaf?_nested_of_plain {value : Value} (hPlain : isPlain key) (hTop : name ∈ topNames)
    (hName : Text.lower name = name) (rest : List String) :
    (value.nested (route key)).leaf? (name :: rest) =
      if key = name then value.leaf? rest else none := by
  rcases route_cases key with hRoute | ⟨first, step, steps, hRead, hRoute⟩
  · rw [hRoute]
    by_cases hKey : key = name <;> simp [hKey]
  · have hKey : key ≠ name := by
      rintro rfl
      rw [route_of_mem_topNames hTop] at hRoute
      cases hRoute
    have hFirst : first ≠ name := by
      rintro rfl
      exact not_mem_topNames hPlain hRoute (hName.symm ▸ hTop)
    rw [hRoute, if_neg hKey]
    simp [hFirst]

/-- What a layer of plain keys says is what it has. -/
theorem said_eq_leaf? (hDistinct : (layer.map Prod.fst).Nodup)
    (hPlain : ∀ member ∈ layer, isPlain member.1)
    (hLeads : (settingsShape modules).Leads path kind) :
    said path layer = (Value.table layer).leaf? path := by
  obtain ⟨name, rest, rfl, hTop, hName⟩ := leads_top hLeads
  induction layer with
  | nil => rfl
  | cons member later ih =>
    obtain ⟨-, hLater⟩ := List.nodup_cons.mp hDistinct
    obtain ⟨hMember, hPlain⟩ := List.forall_mem_cons.mp hPlain
    rw [said_cons, ih hLater hPlain, leaf?_nested_of_plain hMember hTop hName]
    obtain ⟨key, value⟩ := member
    by_cases hKey : key = name
    · subst hKey
      have hNone := Entries.get?_eq_none_of_nodup hDistinct
      simp [hNone]
    · simp [hKey]

/-- A law of keys that holds of folded keys and of the first names of paths holds throughout. -/
theorem keys_setAll {law : String → Prop} {root : Value}
    (hRoot : ∀ member ∈ root.members, law member.1)
    (hFolded : ∀ member ∈ layer, route member.1 = [.member member.1] → law (Text.lower member.1))
    (hName : ∀ key name steps, readPath key = some (name, steps) → law name) :
    ∀ member ∈ (root.setAll layer).members, law member.1 := by
  induction layer generalizing root with
  | nil => exact hRoot
  | cons member rest ih =>
    obtain ⟨hMember, hRest⟩ := List.forall_mem_cons.mp hFolded
    rw [setAll_cons]
    refine ih (fun other hOther => ?_) hRest
    rcases route_cases member.1 with hRoute | ⟨name, step, steps, hRead, hRoute⟩
    · rw [hRoute] at hOther
      rcases Entries.mem_put hOther with rfl | hOther
      · exact hMember hRoute
      · exact hRoot other hOther
    · rw [hRoute] at hOther
      rcases Entries.mem_put hOther with rfl | hOther
      · exact hName _ _ _ hRead
      · exact hRoot other hOther

/-- No key of the root is a path, if folding makes none of the keys of the layer a path. -/
theorem isPlain_setAll {root : Value} (hRoot : ∀ member ∈ root.members, isPlain member.1)
    (hLayer : ∀ member ∈ layer,
      route member.1 = [.member member.1] → isPlain (Text.lower member.1)) :
    ∀ member ∈ (root.setAll layer).members, isPlain member.1 :=
  keys_setAll hRoot hLayer fun _ _ _ hRead => isPlain_name hRead

end Plain

section Gather

/-- What the layers are gathered in: a table that could be a layer itself. -/
structure Gathered (modules : Shape) (root : Value) : Prop where
  fits : (settingsShape modules).fits root
  ordered : Ordered root
  plain : ∀ member ∈ root.members, isPlain member.1

theorem Gathered.setAll {root : Value} (h : Gathered modules root) (hLayer : Sound modules layer) :
    Gathered modules (root.setAll layer) where
  fits := fits_setAll h.fits hLayer.fits
  ordered := h.ordered.setAll layer
  plain := isPlain_setAll h.plain hLayer.plain

theorem gathered_foldl {root : Value} (h : Gathered modules root)
    (hLayers : ∀ layer ∈ layers, Sound modules layer) :
    Gathered modules (layers.foldl Value.setAll root) := by
  induction layers generalizing root with
  | nil => exact h
  | cons layer rest ih =>
    obtain ⟨hLayer, hRest⟩ := List.forall_mem_cons.mp hLayers
    exact ih (h.setAll hLayer) hRest

theorem gathered_nil : Gathered modules (.table []) where
  fits := Shape.fits_record_iff.mpr ⟨[], rfl, by simp⟩
  ordered := .nil
  plain := by simp

theorem Heard.leaf?_setAll (h : Heard modules layer)
    (hLeads : (settingsShape modules).Leads path kind) (root : Value) :
    (root.setAll layer).leaf? path = (said path layer).or (root.leaf? path) :=
  Settings.leaf?_setAll hLeads
    (fun member hMember => ⟨h.fits member hMember, h.distinct member hMember⟩) root

/-- What the layers have made is set over the defaults by its keys once more, so these are plain. -/
theorem Gathered.heard (h : Gathered modules (.table layer)) : Heard modules layer where
  fits member hMember := fits_nested_of_plain h.fits hMember (h.plain member hMember)
  distinct := h.ordered.distinct.member

theorem leaf?_foldl (hLeads : (settingsShape modules).Leads path kind)
    (hLayers : ∀ layer ∈ layers, Sound modules layer) (root : Value) :
    (layers.foldl Value.setAll root).leaf? path =
      (layers.reverse.findSome? (said path)).or (root.leaf? path) := by
  induction layers generalizing root with
  | nil => rfl
  | cons layer rest ih =>
    obtain ⟨hLayer, hRest⟩ := List.forall_mem_cons.mp hLayers
    rw [List.foldl_cons, ih hRest, hLayer.toHeard.leaf?_setAll hLeads, List.reverse_cons,
      List.findSome?_append, Option.or_assoc]
    simp

theorem fits_defaults : (settingsShape modules).fits defaults := by
  have hBoxes := lower_fieldName "boxes" (by simp [fieldNames])
  have hDocument := lower_fieldName "document" (by simp [fieldNames])
  have hPath : (Shape.field .path).fits (.scalar (.string standardDocument) none) := rfl
  have hInner : (Shape.record boxFields).fits (.table [
      ("linux", .scalar (.string Machine.FallbackBoxes.standard.linux) none),
      ("windows", .scalar (.string Machine.FallbackBoxes.standard.windows) none)]) := by
    decide +kernel
  refine Shape.fits_record_iff.mpr ⟨_, rfl, ?_⟩
  simp [topFields, hBoxes, hDocument, hPath, hInner]

/-- All layers over the defaults: the last word on each field, or the default. -/
theorem leaf?_gather (hLeads : (settingsShape modules).Leads path kind) (order : Order)
    (hLayers : ∀ layer ∈ layers, Sound modules layer) :
    (gather order layers).leaf? path =
      ((layersInOrder order 0 layers).reverse.findSome? (said path)).or (defaults.leaf? path) := by
  have hInOrder : ∀ layer ∈ layersInOrder order 0 layers, Sound modules layer :=
    sound_layersInOrder hLayers
  have hRoot := gathered_foldl gathered_nil hInOrder
  have hSaid := leaf?_foldl hLeads hInOrder (.table [])
  obtain ⟨members, hEq, -⟩ := Shape.fits_record_iff.mp hRoot.fits
  simp only [gather, hEq, members_table]
  rw [hEq] at hRoot hSaid
  have hDistinct := hRoot.ordered.distinct
  have hPlain : ∀ member ∈ Members.inOrder (order.ranks .gathered) members, isPlain member.1 :=
    forall_key_inOrder (fun key => isPlain key) hRoot.plain _
  rw [(hRoot.heard.inOrder _).leaf?_setAll hLeads,
    said_eq_leaf? (nodup_inOrder hDistinct.nodup _) hPlain hLeads, ← inOrder_table,
    leaf?_inOrder hDistinct, hSaid]
  cases hLeads with
  | member _ _ _ => simp

theorem fits_gather (order : Order) (hLayers : ∀ layer ∈ layers, Sound modules layer) :
    (settingsShape modules).fits (gather order layers) := by
  have hInOrder : ∀ layer ∈ layersInOrder order 0 layers, Sound modules layer :=
    sound_layersInOrder hLayers
  have hRoot := gathered_foldl gathered_nil hInOrder
  obtain ⟨members, hEq, -⟩ := Shape.fits_record_iff.mp hRoot.fits
  unfold gather
  rw [hEq] at hRoot ⊢
  exact fits_setAll fits_defaults (hRoot.heard.inOrder _).fits

theorem ordered_defaults : Ordered defaults := by
  refine .table (List.pairwise_pair.mpr (by decide)) fun member hMember => ?_
  simp only [List.mem_cons, List.not_mem_nil, or_false] at hMember
  rcases hMember with rfl | rfl
  · exact .table (List.pairwise_pair.mpr (by decide)) (by simp [Ordered.scalar])
  · exact .scalar

/-- Whatever is in the layers, what they are gathered in has each key once. -/
theorem ordered_gather (order : Order) (layers : List Members) : Ordered (gather order layers) :=
  ordered_defaults.setAll _

/-- What a sound layer says at a field can be read. -/
theorem read_said (hLeads : (settingsShape modules).Leads path kind)
    (hLayer : ∀ member ∈ layer, (settingsShape modules).fits (member.2.nested (route member.1)))
    {x : Scalar} (hSaid : said path layer = some x) : (kind.read x).isSome := by
  induction layer with
  | nil => cases hSaid
  | cons member rest ih =>
    obtain ⟨hMember, hRest⟩ := List.forall_mem_cons.mp hLayer
    rw [said_cons] at hSaid
    rcases Option.or_eq_some_iff.mp hSaid with hSaid | ⟨-, hLeaf⟩
    · exact ih hRest hSaid
    · exact hLeads.read_leaf? hMember hLeaf

/-- The defaults are the standard, where they say anything. -/
theorem read_defaults (field : Field) :
    ((defaults.leaf? field.path).bind field.kind.read).getD (field.value .standard) =
      field.value .standard := by
  cases field <;> rfl

/-- Sound layers make settings. Each field is what the last layer says that says something. -/
theorem ofLayers_of_sound (order : Order) (hLayers : ∀ layer ∈ layers, Sound .texts layer) :
    ∃ settings, ofLayers order layers = .ok settings ∧ ∀ field : Field, field.value settings =
      ((layersInOrder order 0 layers).reverse.findSome? fun layer =>
        (said field.path layer).bind field.kind.read).getD (field.value .standard) := by
  have hDistinct := (ordered_gather order layers).distinct
  have hLeaf (field : Field) := leaf?_gather (field.leads .texts) order hLayers
  have hThere (field : Field) (h : (defaults.leaf? field.path).isSome) :
      (((gather order layers).inOrder (order.ranks .reading)).leaf? field.path).isSome := by
    rw [leaf?_inOrder hDistinct, hLeaf, Option.isSome_or, h, Bool.or_true]
  obtain ⟨settings, hSettings, hFollows⟩ := settings_of_fits (order.ranks .modules [])
    (hDistinct.inOrder (order.ranks .reading))
    ((fits_inOrder_iff _).mpr (fits_gather order hLayers)) (hThere .document rfl)
    (hThere .linux rfl) (hThere .windows rfl)
  refine ⟨settings, by rw [ofLayers, hSettings]; rfl, fun field => ?_⟩
  have hRead : ∀ layer ∈ (layersInOrder order 0 layers).reverse, ∀ x,
      said field.path layer = some x → (field.kind.read x).isSome := fun layer hLayer x hSaid =>
    read_said (field.leads .texts)
      (sound_layersInOrder hLayers layer (List.mem_reverse.mp hLayer)).fits hSaid
  rw [hFollows field, leaf?_inOrder hDistinct, hLeaf field, ← findSome?_bind hRead]
  cases (layersInOrder order 0 layers).reverse.findSome? (said field.path) with
  | none => exact read_defaults field
  | some x => rfl

end Gather

end Fleet.Settings
