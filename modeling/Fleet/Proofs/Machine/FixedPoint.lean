import Fleet.Command.Run
import Fleet.Proofs.Json.ReadBack
import Fleet.Proofs.Machine.Resolution
import Mathlib.Data.List.Forall2

/-!
# Resolved machines resolve to themselves

The text in which resolved machines are printed is the text of a list of specifications, and
resolving these changes nothing. A descriptor is read back with its memory and its box given, so
only two fields may consult the store a second time: an empty box, which then is the fallback box
once more, and a missing address, which the store lacks as before. Where neither is open the store
has no say at all.
-/
namespace Fleet.Machine
open Json Fleet.Tree
variable {P : Type}

/-- A descriptor given back as a specification. -/
def Descriptor.spec (machine : Descriptor) : Spec where
  name := machine.name
  kind := machine.kind
  hostname := machine.hostname
  ip := machine.ip
  memory := some machine.memory
  box := some machine.box
  url := machine.url

section Text

theorem reads_kind (kind : Kind) : Reads (P := P) Kind.read kind.toJson kind := by
  intro tree h
  cases value_eq_ok_iff.mp h
  cases kind <;> rfl

theorem reads_memoryJson (memory : Option UInt64) :
    Reads (P := P) (optional word) (memoryJson memory) memory := by
  cases memory with
  | none => exact reads_optional_null word
  | some n => exact (reads_word n).optional Json.noConfusion

theorem reads_spec (spec : Spec) : Reads (P := P) Spec.read spec.toJson spec :=
  Spec.shape.reads_object
    (.cons _ rfl rfl ((reads_text spec.name).map _) <|
      .cons _ rfl rfl ((reads_kind spec.kind).map _) <|
      .cons _ rfl rfl ((reads_text spec.hostname).map _) <|
      .cons _ rfl rfl ((reads_text spec.ip).map _) <|
      .cons _ rfl rfl ((reads_memoryJson spec.memory).map _) <|
      .cons _ rfl rfl ((reads_ofOption spec.box).map _) <|
      .cons _ rfl rfl ((reads_ofOption spec.url).map _) <| .nil _) rfl

/-- A descriptor is written like the specification it gives back. -/
theorem Descriptor.toJson_eq (machine : Descriptor) : machine.toJson = machine.spec.toJson := rfl

theorem writable_descriptor (machine : Descriptor) (level : Nat) :
    Writable (level + 1) machine.toJson := by
  simp [Descriptor.toJson, Kind.toJson]

theorem decode_machinesText (machines : List Descriptor) :
    decode (listOf Spec.read) (Context.machinesText machines .json) =
      .ok (machines.map Descriptor.spec) := by
  -- A list of machines nests two deep, of the levels in `maxDepth`.
  have hWritable : Writable (125 + 2) (.array (machines.map Descriptor.toJson)) := by
    simp [writable_descriptor]
  have hWritten : machines.map Descriptor.toJson =
      (machines.map Descriptor.spec).map Spec.toJson := by
    rw [List.map_map]
    exact List.map_congr_left fun machine _ => machine.toJson_eq
  rw [Context.machinesText]
  refine decode_pretty hWritable ?_
  rw [hWritten]
  exact Reads.listOf fun spec _ => reads_spec spec

end Text

section Resolution
variable {store : Store} {spec : Spec} {machine : Descriptor}

theorem nonempty_eq_some_iff {field : Option String} {text : String} :
    nonempty field = some text ↔ field = some text ∧ text ≠ "" := by
  simp [nonempty, Option.filter_eq_some_iff]

theorem resolve_url_ne_empty {url : String} (h : (spec.resolve store).url = some url) :
    url ≠ "" := by
  rw [Spec.resolve, Option.or_eq_some_iff] at h
  rcases h with hGiven | ⟨-, hListed⟩
  · exact (nonempty_eq_some_iff.mp hGiven).2
  · exact (Document.digString_eq_some_iff.mp hListed).2

/-- An empty box is the one that the store has for the machine. -/
theorem store_box_of_resolve_empty (h : (spec.resolve store).box = "") :
    store.box spec.kind spec.name = "" := by
  rw [Spec.resolve] at h
  cases hGiven : nonempty spec.box with
  | none => rwa [hGiven, Option.getD_none] at h
  | some box =>
    rw [hGiven, Option.getD_some] at h
    exact absurd h (nonempty_eq_some_iff.mp hGiven).2

theorem store_boxUrl_of_resolve_none (h : (spec.resolve store).url = none) :
    store.boxUrl spec.name = none := by
  rw [Spec.resolve, Option.or_eq_none_iff] at h
  exact h.2

theorem box_resolve_spec (machine : Descriptor) (store : Store) :
    (machine.spec.resolve store).box =
      (nonempty (some machine.box)).getD (store.box machine.kind machine.name) := rfl

theorem url_resolve_spec (machine : Descriptor) (store : Store) :
    (machine.spec.resolve store).url =
      (nonempty machine.url).or (store.boxUrl machine.name) := rfl

theorem box_resolve_spec_of_ne (h : machine.box ≠ "") :
    (machine.spec.resolve store).box = machine.box := by
  rw [box_resolve_spec, nonempty_of_ne h, Option.getD_some]

theorem url_resolve_spec_of_some {url : String} (h : machine.url = some url) (hUrl : url ≠ "") :
    (machine.spec.resolve store).url = machine.url := by
  rw [url_resolve_spec, h, nonempty_of_ne hUrl, Option.some_or]

/-- Box and address are all that a second resolution could change. -/
theorem resolve_spec_eq_self (hBox : (machine.spec.resolve store).box = machine.box)
    (hUrl : (machine.spec.resolve store).url = machine.url) :
    machine.spec.resolve store = machine := by
  have hRest : machine.spec.resolve store =
      { machine with
        box := (machine.spec.resolve store).box
        url := (machine.spec.resolve store).url } := rfl
  rw [hRest, hBox, hUrl]

/-- A second resolution against the same store changes nothing. -/
theorem resolve_spec_resolve (store : Store) (spec : Spec) :
    (spec.resolve store).spec.resolve store = spec.resolve store := by
  refine resolve_spec_eq_self ?_ ?_
  · by_cases hBox : (spec.resolve store).box = ""
    · rw [box_resolve_spec, hBox]
      exact store_box_of_resolve_empty hBox
    · exact box_resolve_spec_of_ne hBox
  · cases hUrl : (spec.resolve store).url with
    | none =>
      rw [url_resolve_spec, hUrl]
      exact store_boxUrl_of_resolve_none hUrl
    | some url => rw [url_resolve_spec_of_some hUrl (resolve_url_ne_empty hUrl), hUrl]

end Resolution

/-- The text of resolved machines is read as specifications that resolve to the same machines
again, and to these against every store where box and address are given. -/
theorem decode_machinesText_fixed (store : Store) (specs : List Spec) :
    ∃ again, decode (listOf Spec.read) (Context.machinesText (resolveAll store specs) .json) =
        .ok again ∧
      resolveAll store again = resolveAll store specs ∧
      List.Forall₂ (fun spec machine => (∃ box, spec.box = some box ∧ box ≠ "") →
          (∃ url, spec.url = some url) → ∀ other : Store, spec.resolve other = machine)
        again (resolveAll store specs) := by
  refine ⟨_, decode_machinesText (resolveAll store specs), ?_, ?_⟩
  · simp only [resolveAll, List.map_map]
    exact List.map_congr_left fun spec _ => resolve_spec_resolve store spec
  · rw [List.forall₂_map_left_iff, List.forall₂_same]
    rintro machine hMachine ⟨box, hBox, hGiven⟩ ⟨url, hUrl⟩ other
    obtain ⟨spec, -, rfl⟩ := List.mem_map.mp hMachine
    cases hBox
    exact resolve_spec_eq_self (box_resolve_spec_of_ne hGiven)
      (url_resolve_spec_of_some hUrl (resolve_url_ne_empty hUrl))

end Fleet.Machine
