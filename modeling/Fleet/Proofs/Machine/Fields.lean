import Fleet.Machine.Codec
import Fleet.Proofs.Tree.Decode

/-!
# Machines read from their fields in any order

A machine may be written with its open fields left out, its kind in any mix of letter case and its
fields in any order. The draft that such fields fill depends only on which of them have come, so
the induction over the fields carries the keys that are done.
-/
namespace Fleet.Machine
open Fleet.Tree
variable {P : Type}

/-- The word is the name of the kind in some mix of letter case. -/
def Kind.IsWord (kind : Kind) (word : String) : Prop :=
  word.toList.map Char.toLower = kind.name.toList

/-- The fields of a machine that are not open, with this word for its kind. -/
def Spec.entries (spec : Spec) (word : String) : List (String × Json) :=
  [("name", .string spec.name), ("kind", .string word), ("hostname", .string spec.hostname),
      ("ip", .string spec.ip)] ++
    (spec.memory.map fun n => ("memory", Json.natural n.toNat)).toList ++
    (spec.box.map fun box => ("box", Json.string box)).toList ++
    (spec.url.map fun url => ("url", Json.string url)).toList

/-- These are the fields of the machine, in some order. -/
def Spec.AreFields (spec : Spec) (fields : List (String × Json)) : Prop :=
  ∃ word, spec.kind.IsWord word ∧ fields.Perm (spec.entries word)

/-- What is known of a machine once the fields with these keys have come. -/
def Spec.draftOf (spec : Spec) (keys : List String) : Spec.Draft where
  name := if "name" ∈ keys then some spec.name else none
  kind := if "kind" ∈ keys then some spec.kind else none
  hostname := if "hostname" ∈ keys then some spec.hostname else none
  ip := if "ip" ∈ keys then some spec.ip else none
  memory := if "memory" ∈ keys then some spec.memory else none
  box := if "box" ∈ keys then some spec.box else none
  url := if "url" ∈ keys then some spec.url else none

theorem Kind.isWord_name (kind : Kind) : kind.IsWord kind.name := by
  cases kind <;> rfl

theorem Kind.ofName?_of_isWord {kind : Kind} {word : String} (h : kind.IsWord word) :
    Kind.ofName? word = .ok kind := by
  have hFolded : word.toList.map Char.toLower = kind.name.toList := h
  simp only [Kind.ofName?, hFolded]
  cases kind <;> rfl

theorem reads_kindWord {kind : Kind} {word : String} (h : kind.IsWord word) :
    Reads (P := P) Kind.read (.string word) kind := by
  intro tree hTree
  cases value_eq_ok_iff.mp hTree
  simp [Kind.read, text, readString, Kind.ofName?_of_isWord h, bind, Except.bind]

namespace Spec
variable {spec : Spec} {word : String} {fields : List (String × Json)}

theorem nodup_entries : ((spec.entries word).map Prod.fst).Nodup := by
  obtain ⟨name, kind, hostname, ip, memory, box, url⟩ := spec
  cases memory <;> cases box <;> cases url <;> simp [entries]

theorem mem_entries_iff {key : String} {value : Json} :
    (key, value) ∈ spec.entries word ↔
      (key = "name" ∧ value = .string spec.name) ∨ (key = "kind" ∧ value = .string word) ∨
      (key = "hostname" ∧ value = .string spec.hostname) ∨ (key = "ip" ∧ value = .string spec.ip) ∨
      (∃ n, spec.memory = some n ∧ "memory" = key ∧ .natural n.toNat = value) ∨
      (∃ box, spec.box = some box ∧ "box" = key ∧ .string box = value) ∨
      (∃ url, spec.url = some url ∧ "url" = key ∧ .string url = value) := by
  simp [entries, Option.map_eq_some_iff]

/-- A field that comes fills the draft of those before it. -/
theorem fill_entry (hWord : spec.kind.IsWord word) {key : String} {value : Json}
    (hEntry : (key, value) ∈ spec.entries word) {keys : List String} (hNew : key ∉ keys) :
    ∃ (field : Field P Spec.Draft) (set : Spec.Draft → Spec.Draft),
      (Spec.fields.find? fun field => field.name == key) = some field ∧
        field.filled (spec.draftOf keys) = false ∧ Reads field.fill value set ∧
          set (spec.draftOf keys) = spec.draftOf (keys ++ [key]) := by
  obtain ⟨rfl, rfl⟩ | ⟨rfl, rfl⟩ | ⟨rfl, rfl⟩ | ⟨rfl, rfl⟩ | ⟨n, hSome, rfl, rfl⟩ |
    ⟨box, hSome, rfl, rfl⟩ | ⟨url, hSome, rfl, rfl⟩ := mem_entries_iff.mp hEntry
  · exact ⟨_, _, rfl, by simp [draftOf, hNew], (reads_text spec.name).map _, by simp [draftOf]⟩
  · exact ⟨_, _, rfl, by simp [draftOf, hNew], (reads_kindWord hWord).map _, by simp [draftOf]⟩
  · exact ⟨_, _, rfl, by simp [draftOf, hNew], (reads_text spec.hostname).map _, by simp [draftOf]⟩
  · exact ⟨_, _, rfl, by simp [draftOf, hNew], (reads_text spec.ip).map _, by simp [draftOf]⟩
  · have hRead := (reads_word (P := P) n).optional Json.noConfusion
    exact ⟨_, _, rfl, by simp [draftOf, hNew], hRead.map _, by simp [draftOf, hSome]⟩
  · have hRead := (reads_text (P := P) box).optional Json.noConfusion
    exact ⟨_, _, rfl, by simp [draftOf, hNew], hRead.map _, by simp [draftOf, hSome]⟩
  · have hRead := (reads_text (P := P) url).optional Json.noConfusion
    exact ⟨_, _, rfl, by simp [draftOf, hNew], hRead.map _, by simp [draftOf, hSome]⟩

theorem fills_entries (hWord : spec.kind.IsWord word)
    (hEntries : ∀ entry ∈ fields, entry ∈ spec.entries word) {keys : List String}
    (hKeys : (keys ++ fields.map Prod.fst).Nodup) :
    Fills (P := P) Spec.fields (spec.draftOf keys) fields
      (spec.draftOf (keys ++ fields.map Prod.fst)) := by
  induction fields generalizing keys with
  | nil => simpa using Fills.nil _
  | cons entry fields ih =>
    obtain ⟨key, value⟩ := entry
    obtain ⟨hEntry, hMore⟩ := List.forall_mem_cons.mp hEntries
    have hNew : key ∉ keys := by
      rw [List.nodup_append] at hKeys
      exact fun hMem => hKeys.2.2 key hMem key (by simp) rfl
    have hAppend : keys ++ ((key, value) :: fields).map Prod.fst =
        keys ++ [key] ++ fields.map Prod.fst := by simp
    obtain ⟨field, set, hField, hOpen, hFill, hSet⟩ := fill_entry (P := P) hWord hEntry hNew
    rw [hAppend] at hKeys ⊢
    refine .cons field hField hOpen hFill ?_
    rw [hSet]
    exact ih hMore hKeys

/-- A field that is open stays open in the draft, whether or not its key has come. -/
theorem join_of_some {α : Type} {field : Option α} {p : Prop} [Decidable p]
    (h : ∀ a, field = some a → p) : (if p then some field else none).join = field := by
  cases field with
  | none => split <;> rfl
  | some a => rw [if_pos (h a rfl), Option.join_some]

/-- All fields together are the machine. -/
theorem finish_draftOf {keys : List String}
    (hKeys : ∀ key ∈ (spec.entries word).map Prod.fst, key ∈ keys) :
    (spec.draftOf keys).finish = .ok spec := by
  have hName : "name" ∈ keys := hKeys "name" (by simp [entries])
  have hKind : "kind" ∈ keys := hKeys "kind" (by simp [entries])
  have hHost : "hostname" ∈ keys := hKeys "hostname" (by simp [entries])
  have hIp : "ip" ∈ keys := hKeys "ip" (by simp [entries])
  have hMemory (n : UInt64) (hSome : spec.memory = some n) : "memory" ∈ keys :=
    hKeys "memory" (by simp [entries, hSome])
  have hBox (box : String) (hSome : spec.box = some box) : "box" ∈ keys :=
    hKeys "box" (by simp [entries, hSome])
  have hUrl (url : String) (hSome : spec.url = some url) : "url" ∈ keys :=
    hKeys "url" (by simp [entries, hSome])
  simp only [draftOf, Draft.finish, hName, hKind, hHost, hIp, if_true, join_of_some hMemory,
    join_of_some hBox, join_of_some hUrl]

theorem AreFields.nodup_keys (h : spec.AreFields fields) : (fields.map Prod.fst).Nodup := by
  obtain ⟨word, -, hPerm⟩ := h
  exact (hPerm.map Prod.fst).nodup_iff.mpr nodup_entries

/-- A machine is read from its fields. -/
theorem reads_fields (h : spec.AreFields fields) :
    Reads (P := P) Spec.read (.object fields) spec := by
  have hKeys : ([] ++ fields.map Prod.fst).Nodup := h.nodup_keys
  obtain ⟨word, hWord, hPerm⟩ := h
  have hEntries : ∀ entry ∈ fields, entry ∈ spec.entries word := fun _ => hPerm.mem_iff.mp
  exact Spec.shape.reads_object (fills_entries hWord hEntries hKeys)
    (finish_draftOf fun _ => (hPerm.map Prod.fst).mem_iff.mpr)

end Spec

end Fleet.Machine
