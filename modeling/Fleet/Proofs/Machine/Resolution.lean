import Fleet.Machine.Resolve
import Fleet.Proofs.Document.Descent

/-!
# What resolving a machine means

Each open field of a specification is settled by a chain: the specification itself, then the node
of the document that is reached through objects only, then a default. The three chains differ in
what counts as missing. A memory of nought is given, an empty box or address is not; a memory in
the document has to be a number, a box or address a string that is not empty. `Settled` states the
chains of the raw tree. Of a memory that the document writes as a double nothing is said here.
-/
namespace Fleet.Machine

/-- A field is left open by its absence and by an empty text. -/
def IsOpen (field : Option String) : Prop := field = none ∨ field = some ""

/-- The node stands for no amount of memory: a null, a negative integer, or not a number. -/
def NoAmount (node : Json) : Prop :=
  node = .null ∨ (∃ n, n < 0 ∧ node = .number (.whole n)) ∨ ∀ x, node ≠ .number x

/-- The descriptor is what the specification, the document and the fallback boxes make of it. -/
structure Settled (store : Store) (spec : Spec) (machine : Descriptor) : Prop where
  name : machine.name = spec.name
  kind : machine.kind = spec.kind
  hostname : machine.hostname = spec.hostname
  ip : machine.ip = spec.ip
  memory_given : ∀ memory, spec.memory = some memory → machine.memory = memory
  memory_listed : spec.memory = none → ∀ memory : UInt64,
    store.document.root.Reaches ["boxes", spec.name, "memory"] (.natural memory.toNat) →
    machine.memory = memory
  memory_nought : spec.memory = none →
    (∀ node, store.document.root.Reaches ["boxes", spec.name, "memory"] node → NoAmount node) →
    machine.memory = 0
  box_given : ∀ box, spec.box = some box → box ≠ "" → machine.box = box
  box_listed : IsOpen spec.box → ∀ box, box ≠ "" →
    store.document.root.Reaches ["boxes", spec.name, "name"] (.string box) → machine.box = box
  box_fallback : IsOpen spec.box →
    (∀ box, store.document.root.Reaches ["boxes", spec.name, "name"] (.string box) → box = "") →
    machine.box = store.fallback.ofKind spec.kind
  url_given : ∀ url, spec.url = some url → url ≠ "" → machine.url = some url
  url_listed : IsOpen spec.url → ∀ url, url ≠ "" →
    store.document.root.Reaches ["boxes", spec.name, "url"] (.string url) → machine.url = some url
  url_absent : IsOpen spec.url →
    (∀ url, store.document.root.Reaches ["boxes", spec.name, "url"] (.string url) → url = "") →
    machine.url = none

theorem nonempty_of_ne {text : String} (h : text ≠ "") : nonempty (some text) = some text := by
  simp [nonempty, h]

theorem nonempty_eq_none_iff {field : Option String} : nonempty field = none ↔ IsOpen field := by
  cases field with
  | none => simp [nonempty, IsOpen]
  | some text => simp [nonempty, IsOpen]

theorem memory_of_natural {store : Store} {name : String} {memory : UInt64}
    (h : store.document.root.Reaches ["boxes", name, "memory"] (.natural memory.toNat)) :
    store.memory name = memory := by
  have hNode : store.memoryNode name = some (.natural memory.toNat) :=
    Document.dig_eq_some_iff.mpr ⟨h, Json.noConfusion⟩
  have hBound : memory.toNat < 18446744073709551616 := memory.toNat_lt
  have hRange : (0 : Int) ≤ memory.toNat ∧ (memory.toNat : Int) < Number.unsignedEnd := by
    simp only [Number.unsignedEnd]
    omega
  rw [Store.memory, hNode, Option.bind_some, Json.natural, Json.megabytes?, if_pos hRange,
    Option.getD_some, Int.toNat_natCast, UInt64.ofNat_toNat]

theorem megabytes?_of_noAmount {node : Json} (h : NoAmount node) : node.megabytes? = none := by
  rcases h with rfl | ⟨n, hn, rfl⟩ | hOther
  · rfl
  · rw [Json.megabytes?, if_neg]
    omega
  · cases node with
    | number x => exact absurd rfl (hOther x)
    | _ => rfl

theorem memory_of_noAmount {store : Store} {name : String}
    (h : ∀ node, store.document.root.Reaches ["boxes", name, "memory"] node → NoAmount node) :
    store.memory name = 0 := by
  rw [Store.memory]
  cases hNode : store.memoryNode name with
  | none => rfl
  | some node =>
    have hReach := (Document.dig_eq_some_iff.mp hNode).1
    rw [Option.bind_some, megabytes?_of_noAmount (h node hReach), Option.getD_none]

theorem settled_resolve (store : Store) (spec : Spec) :
    Settled store spec (spec.resolve store) where
  name := rfl
  kind := rfl
  hostname := rfl
  ip := rfl
  memory_given memory h := by
    simp [Spec.resolve, h]
  memory_listed hOpen memory hReach := by
    rw [Spec.resolve, hOpen]
    exact memory_of_natural hReach
  memory_nought hOpen hNone := by
    rw [Spec.resolve, hOpen]
    exact memory_of_noAmount hNone
  box_given box h hBox := by
    rw [Spec.resolve, h, nonempty_of_ne hBox]
    rfl
  box_listed hOpen box hBox hReach := by
    have hListed : store.configuredBox spec.name = some box :=
      Document.digString_eq_some_iff.mpr ⟨hReach, hBox⟩
    rw [Spec.resolve, nonempty_eq_none_iff.mpr hOpen, Option.getD_none, Store.box, hListed,
      Option.getD_some]
  box_fallback hOpen hNone := by
    have hListed : store.configuredBox spec.name = none :=
      Document.digString_eq_none_iff.mpr hNone
    rw [Spec.resolve, nonempty_eq_none_iff.mpr hOpen, Option.getD_none, Store.box, hListed,
      Option.getD_none]
  url_given url h hUrl := by
    rw [Spec.resolve, h, nonempty_of_ne hUrl]
    rfl
  url_listed hOpen url hUrl hReach := by
    have hListed : store.boxUrl spec.name = some url :=
      Document.digString_eq_some_iff.mpr ⟨hReach, hUrl⟩
    rw [Spec.resolve, nonempty_eq_none_iff.mpr hOpen, Option.none_or, hListed]
  url_absent hOpen hNone := by
    have hListed : store.boxUrl spec.name = none :=
      Document.digString_eq_none_iff.mpr hNone
    rw [Spec.resolve, nonempty_eq_none_iff.mpr hOpen, Option.none_or, hListed]

end Fleet.Machine
