import Fleet.Document.Load
import Fleet.Proofs.Document.Descent
import Fleet.Store

/-!
# Documents that answer alike

A null member of a document counts as absent, and so does everything in a container of the wrong
shape. `tidy` takes both out: null members at every depth, and with a container its content. The
main statement is that no lookup of a store can tell a document from its tidy form, whatever the
fallback boxes and the environment.
-/
namespace Fleet

namespace Json

mutual
/-- The value without its null members, at every depth. -/
def withoutNulls : Json → Json
  | .array items => .array (itemsWithoutNulls items)
  | .object members => .object (membersWithoutNulls members)
  | value => value

def itemsWithoutNulls : List Json → List Json
  | [] => []
  | item :: rest => item.withoutNulls :: itemsWithoutNulls rest

/-- A null member goes together with the pairs that it hides. -/
def membersWithoutNulls : List (String × Json) → List (String × Json)
  | [] => []
  | (key, value) :: rest =>
    if value.isNull then (membersWithoutNulls rest).filter fun pair => pair.1 ≠ key
    else (key, value.withoutNulls) :: membersWithoutNulls rest
end

def asObject : Json → Json
  | .object members => .object members
  | _ => .object []

def asArray : Json → Json
  | .array items => .array items
  | _ => .array []

/-- An object with its members changed; anything else counts as an object without members. -/
def mapMembers (change : String → Json → Json) : Json → Json
  | .object members => .object (members.map fun pair => (pair.1, change pair.1 pair.2))
  | _ => .object []

end Json

namespace Document

def tidyBoxes (boxes : Json) : Json := boxes.mapMembers fun _ box => box.asObject

def tidyFolders (folders : Json) : Json := folders.mapMembers fun _ listing => listing.asArray

/-- The part of a document under a top key, with its containers in the shape that lookups want. -/
def tidyPart (key : String) (part : Json) : Json :=
  if key = "boxes" then tidyBoxes part
  else if key = "folders" then tidyFolders part
  else part

def tidy (document : Document) : Document := ⟨document.root.withoutNulls.mapMembers tidyPart⟩

end Document

namespace Entries
variable {α β : Type} {key other : String}

theorem get?_filter_ne (entries : List (String × α)) :
    get? key (entries.filter fun pair => pair.1 ≠ other) =
      if key = other then none else get? key entries := by
  induction entries with
  | nil => simp
  | cons head rest ih =>
    obtain ⟨k, v⟩ := head
    by_cases hk : k = other
    · rw [List.filter_cons_of_neg (by simp [hk]), ih]
      by_cases hKey : key = other
      · rw [if_pos hKey, if_pos hKey]
      · have hNe : k ≠ key := fun h => hKey (h.symm.trans hk)
        rw [if_neg hKey, if_neg hKey, get?, if_neg hNe]
    · rw [List.filter_cons_of_pos (by simp [hk]), get?, get?, ih]
      by_cases hKey : k = key
      · rw [if_pos hKey, if_pos hKey, if_neg (hKey ▸ hk)]
      · rw [if_neg hKey, if_neg hKey]

theorem get?_map (change : String → α → β) (entries : List (String × α)) :
    get? key (entries.map fun pair => (pair.1, change pair.1 pair.2)) =
      (get? key entries).map (change key) := by
  induction entries with
  | nil => rfl
  | cons head rest ih =>
    obtain ⟨k, v⟩ := head
    rw [List.map_cons, get?, get?, ih]
    by_cases hk : k = key
    · rw [if_pos hk, if_pos hk, hk, Option.map_some]
    · rw [if_neg hk, if_neg hk]

end Entries

namespace Json

/-- The value of a member that is there and not null. -/
def present? (key : String) (node : Json) : Option Json :=
  (node.member? key).filter fun child => !child.isNull

@[simp] theorem isNull_withoutNulls (node : Json) : node.withoutNulls.isNull = node.isNull := by
  cases node <;> rfl

@[simp] theorem string?_withoutNulls (node : Json) : node.withoutNulls.string? = node.string? := by
  cases node <;> rfl

@[simp] theorem megabytes?_withoutNulls (node : Json) :
    node.withoutNulls.megabytes? = node.megabytes? := by
  cases node <;> rfl

theorem get?_membersWithoutNulls (key : String) (members : List (String × Json)) :
    Entries.get? key (membersWithoutNulls members) =
      (Option.filter (fun child => !child.isNull) (Entries.get? key members)).map withoutNulls := by
  induction members with
  | nil => rfl
  | cons head rest ih =>
    obtain ⟨k, value⟩ := head
    rw [membersWithoutNulls, Entries.get?]
    cases hNull : value.isNull with
    | true =>
      rw [if_pos rfl, Entries.get?_filter_ne, ih]
      by_cases hk : k = key
      · simp [hk, hNull, Option.filter]
      · simp [hk, Ne.symm hk]
    | false =>
      rw [if_neg (by simp), Entries.get?, ih]
      by_cases hk : k = key
      · simp [hk, hNull, Option.filter]
      · simp [hk]

/-- Where no key stands twice, the null members go and nothing else. -/
theorem membersWithoutNulls_of_nodup {members : List (String × Json)}
    (h : (members.map Prod.fst).Nodup) :
    membersWithoutNulls members =
      (members.filter fun pair => !pair.2.isNull).map fun pair => (pair.1, pair.2.withoutNulls) := by
  induction members with
  | nil => rfl
  | cons head rest ih =>
    obtain ⟨key, value⟩ := head
    obtain ⟨hKey, hRest⟩ := List.nodup_cons.mp h
    rw [membersWithoutNulls, ih hRest]
    cases hNull : value.isNull with
    | true =>
      rw [if_pos rfl, List.filter_cons_of_neg (by simp [hNull]), List.filter_eq_self]
      intro pair hPair
      obtain ⟨origin, hOrigin, rfl⟩ := List.mem_map.mp hPair
      have hMem : origin.1 ∈ rest.map Prod.fst :=
        List.mem_map_of_mem (List.mem_filter.mp hOrigin).1
      simpa using fun hEq : origin.1 = key => hKey (hEq ▸ hMem)
    | false => rw [if_neg (by simp), List.filter_cons_of_pos (by simp [hNull]), List.map_cons]

theorem member?_withoutNulls (key : String) (node : Json) :
    node.withoutNulls.member? key = (node.present? key).map withoutNulls := by
  cases node with
  | object members => exact get?_membersWithoutNulls key members
  | _ => rfl

theorem member?_mapMembers (change : String → Json → Json) (key : String) (node : Json) :
    (node.mapMembers change).member? key = (node.member? key).map (change key) := by
  cases node with
  | object members => exact Entries.get?_map change members
  | _ => rfl

theorem isNull_of_present? {key : String} {node child : Json} (h : node.present? key = some child) :
    child.isNull = false := by
  simpa using (Option.filter_eq_some_iff.mp h).2

/-- Where absence and null are treated alike, only present members matter. -/
theorem present?_bind {α : Type} {read : Json → Option α} (hNull : read .null = none)
    (key : String) (node : Json) : (node.present? key).bind read = (node.member? key).bind read := by
  rw [present?]
  cases node.member? key with
  | none => rfl
  | some child =>
    cases child with
    | null => exact hNull.symm
    | _ => rfl

/-- A change that makes no null of what is present acts on the present members. -/
theorem present?_map {key : String} {node other : Json} {change : Json → Json}
    (hMember : other.member? key = (node.present? key).map change)
    (hChange : ∀ child, child.isNull = false → (change child).isNull = false) :
    other.present? key = (node.present? key).map change := by
  rw [present?, hMember]
  cases hPresent : node.present? key with
  | none => rfl
  | some child => simp [Option.filter, hChange child (isNull_of_present? hPresent)]

theorem present?_withoutNulls (key : String) (node : Json) :
    node.withoutNulls.present? key = (node.present? key).map withoutNulls := by
  apply present?_map (member?_withoutNulls key node)
  simp

theorem present?_mapMembers {change : String → Json → Json} {key : String}
    (hChange : ∀ child, child.isNull = false → (change key child).isNull = false) (node : Json) :
    (node.withoutNulls.mapMembers change).present? key =
      (node.present? key).map fun child => change key child.withoutNulls := by
  apply present?_map
  · rw [member?_mapMembers, member?_withoutNulls, Option.map_map]
    rfl
  · intro child hChild
    exact hChange _ (by rwa [isNull_withoutNulls])

theorem present?_asObject (key : String) (node : Json) :
    node.withoutNulls.asObject.present? key = (node.present? key).map withoutNulls := by
  rw [← present?_withoutNulls]
  cases node <;> rfl

theorem isNull_mapMembers (change : String → Json → Json) (node : Json) :
    (node.mapMembers change).isNull = false := by
  cases node <;> rfl

theorem isNull_asObject (node : Json) : node.asObject.isNull = false := by
  cases node <;> rfl

theorem isNull_asArray (node : Json) : node.asArray.isNull = false := by
  cases node <;> rfl

end Json

namespace Document
variable {document : Document}

theorem dig_singleton (document : Document) (key : String) :
    document.dig [key] = document.root.present? key := by
  rw [dig, Json.follow_cons, Json.present?]
  simp

/-- A path is descended member by member, each of them present. -/
theorem dig_cons (document : Document) (key : String) (keys : List String) :
    document.dig (key :: keys) =
      (document.root.present? key).bind fun child => dig ⟨child⟩ keys := by
  rw [← dig_singleton, ← dig_append, List.singleton_append]

theorem dig_pair (document : Document) (first second : String) :
    document.dig [first, second] =
      (document.root.present? first).bind fun child => child.present? second := by
  simp only [dig_cons document, dig_singleton]

theorem dig_triple (document : Document) (first second third : String) :
    document.dig [first, second, third] =
      (document.root.present? first).bind fun child =>
        (child.present? second).bind fun grandchild => grandchild.present? third := by
  simp only [dig_cons document, dig_pair]

theorem isNull_tidyPart {key : String} {part : Json} (h : part.isNull = false) :
    (tidyPart key part).isNull = false := by
  unfold tidyPart
  split
  · exact Json.isNull_mapMembers _ part
  split
  · exact Json.isNull_mapMembers _ part
  · exact h

theorem present?_tidy (document : Document) (key : String) :
    document.tidy.root.present? key =
      (document.root.present? key).map fun part => tidyPart key part.withoutNulls :=
  Json.present?_mapMembers (fun _ h => isNull_tidyPart h) document.root

theorem present?_tidyBoxes (name : String) (part : Json) :
    (tidyPart "boxes" part.withoutNulls).present? name =
      (part.present? name).map fun box => box.withoutNulls.asObject := by
  rw [tidyPart, if_pos rfl, tidyBoxes]
  exact Json.present?_mapMembers (fun box _ => Json.isNull_asObject box) part

theorem present?_tidyFolders (category : String) (part : Json) :
    (tidyPart "folders" part.withoutNulls).present? category =
      (part.present? category).map fun listing => listing.withoutNulls.asArray := by
  rw [tidyPart, if_neg (by decide), if_pos rfl, tidyFolders]
  exact Json.present?_mapMembers (fun listing _ => Json.isNull_asArray listing) part

theorem dig_tidy_box (document : Document) (name key : String) :
    document.tidy.dig ["boxes", name, key] =
      (document.dig ["boxes", name, key]).map Json.withoutNulls := by
  simp only [dig_triple, present?_tidy, Option.bind_map, Option.map_bind, Function.comp_def,
    present?_tidyBoxes, Json.present?_asObject]

theorem dig_tidy_folders (document : Document) (category : String) :
    document.tidy.dig ["folders", category] =
      (document.dig ["folders", category]).map fun listing => listing.withoutNulls.asArray := by
  simp only [dig_pair, present?_tidy, Option.bind_map, Option.map_bind, Function.comp_def,
    present?_tidyFolders]

theorem digString_tidy_box (document : Document) (name key : String) :
    document.tidy.digString ["boxes", name, key] = document.digString ["boxes", name, key] := by
  rw [digString, digString, dig_tidy_box, Option.bind_map]
  simp only [Function.comp_def, Json.string?_withoutNulls]

end Document

namespace Folders

theorem side?_withoutNulls (key : String) (entry : Json) :
    side? key entry.withoutNulls = side? key entry := by
  have hMember : (entry.withoutNulls.member? key).bind Json.string? =
      (entry.member? key).bind Json.string? := by
    rw [Json.member?_withoutNulls, Option.bind_map, ← Json.present?_bind rfl]
    simp only [Function.comp_def, Json.string?_withoutNulls]
  rw [side?, side?, hMember]

theorem listedMount?_withoutNulls (entry : Json) :
    listedMount? entry.withoutNulls = listedMount? entry := by
  unfold listedMount?
  rw [side?_withoutNulls, side?_withoutNulls]

theorem filterMap_itemsWithoutNulls (entries : List Json) :
    (Json.itemsWithoutNulls entries).filterMap listedMount? =
      entries.filterMap listedMount? := by
  induction entries with
  | nil => rfl
  | cons entry rest ih =>
    rw [Json.itemsWithoutNulls, List.filterMap_cons, List.filterMap_cons, ih,
      listedMount?_withoutNulls]

theorem listedMounts_tidy (listing : Option Json) :
    listedMounts (listing.map fun node => node.withoutNulls.asArray) = listedMounts listing := by
  cases listing with
  | none => rfl
  | some node =>
    cases node with
    | array entries => exact filterMap_itemsWithoutNulls entries
    | _ => rfl

theorem ofDocument_tidy (document : Document) (category : String) :
    ofDocument document.tidy category = ofDocument document category := by
  rw [ofDocument, ofDocument, Document.dig_tidy_folders, listedMounts_tidy]

end Folders

/-- Two stores give the same answer to every lookup. -/
structure Store.AnswersLike (store other : Store) : Prop where
  memory : ∀ name, store.memory name = other.memory name
  box : ∀ kind name, store.box kind name = other.box kind name
  boxUrl : ∀ name, store.boxUrl name = other.boxUrl name
  folders : ∀ category variableName,
    store.folders category variableName = other.folders category variableName

namespace Document

/-- No store can tell the documents apart. -/
def Alike (document other : Document) : Prop :=
  ∀ fallback env, Store.AnswersLike ⟨document, fallback, env⟩ ⟨other, fallback, env⟩

theorem alike_tidy (document : Document) : document.tidy.Alike document := by
  intro fallback env
  constructor
  · intro name
    rw [Store.memory, Store.memory, Store.memoryNode, Store.memoryNode, dig_tidy_box,
      Option.bind_map]
    simp only [Function.comp_def, Json.megabytes?_withoutNulls]
  · intro kind name
    rw [Store.box, Store.box, Store.configuredBox, Store.configuredBox, digString_tidy_box]
  · intro name
    rw [Store.boxUrl, Store.boxUrl, digString_tidy_box]
  · intro category variableName
    rw [Store.folders, Store.folders, Folders.ofDocument_tidy]
    rfl

/-- Tidying leaves nothing of a root that is no object. -/
theorem alike_empty_of_root {root : Json} (h : ∀ members, root ≠ .object members) :
    Alike empty ⟨root⟩ := by
  have hTidy : tidy ⟨root⟩ = empty := by
    cases root with
    | object members => exact absurd rfl (h members)
    | _ => rfl
  exact hTidy ▸ alike_tidy ⟨root⟩

theorem load_of_isMissing {files : Files} {path : Path} (h : isMissing files path = true) :
    load files path = .ok empty := by
  unfold isMissing at h
  split at h
  · next hText => rw [load, hText]
  · cases h

/-- Null members and containers of the wrong shape mean the same as absence: a document answers
like its tidy form, and a root that is no object or a missing file like the empty document. -/
theorem alike_tidy_and_empty :
    (∀ document : Document, document.tidy.Alike document) ∧
      (∀ root : Json, (∀ members, root ≠ .object members) → Alike empty ⟨root⟩) ∧
        ∀ files path, isMissing files path = true → load files path = .ok empty :=
  ⟨alike_tidy, fun _ => alike_empty_of_root, fun _ _ => load_of_isMissing⟩

example :
    let entry : Json := .object [("guest", .string "/g"), ("host", .string "/h"), ("mode", .null)]
    let document : Document := ⟨.object [
      ("boxes", .object
        [("ad", .array []), ("ipa", .object [("name", .null), ("url", .string "u")])]),
      ("folders", .object [("nfs", .array [entry, .null]), ("rsync", .string "/h:/g")])]⟩
    (document.tidy.dig ["boxes", "ad"]).isSome = true ∧
      document.tidy.dig ["boxes", "ipa", "name"] = none ∧
        (Folders.ofDocument document.tidy "nfs").length = 1 ∧
          Folders.ofDocument document.tidy "rsync" = [] := by
  refine ⟨rfl, rfl, rfl, rfl⟩

end Document

end Fleet
