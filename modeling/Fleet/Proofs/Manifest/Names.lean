import Fleet.Manifest.Load
import Fleet.Proofs.Guest.Plan
import Mathlib.Order.Bounds.Defs

/-!
# The names of a manifest

The check of names walks the machines of a manifest with the names it has met so far. So it stops
at the first name that is empty or stands at an earlier position, and the kind of its fault is read
off this name; if there is none, all is well. Names are handed on as they are, from the manifest to
the machines that are resolved and from there to the guests that are planned, so none of them has to
be checked again.
-/
namespace Fleet.Manifest
open Machine

def names (manifest : Manifest) : List String := manifest.machines.map Spec.name

/-- No name is empty, and no two are the same. -/
def ProperNames (names : List String) : Prop := (∀ name ∈ names, name ≠ "") ∧ names.Nodup

/-- The name at this position is empty or stands at an earlier position too. -/
def OffendsAt (names : List String) (i : Nat) : Prop :=
  ∃ name, names[i]? = some name ∧ (name = "" ∨ ∃ j < i, names[j]? = some name)

/-- The fault that a name which offends is reported with. -/
structure Blames (name : String) (fault : NameFault) : Prop where
  empty : name = "" → fault = .empty ∧ fault.message = "Machine name cannot be empty"
  duplicate : name ≠ "" →
    fault = .duplicate name ∧ fault.message = "Duplicate machine name '" ++ name ++ "'"

/-- The text is a TOML document with these machines, whatever their names. -/
def Describes (text : String) (manifest : Manifest) : Prop :=
  ∃ members, Toml.read? text = some members ∧ read members.tree = .ok manifest

section Check
variable {seen : List String} {specs : List Spec}

theorem checkNames_eq_ok_iff :
    checkNames seen specs = .ok () ↔
      (∀ spec ∈ specs, spec.name ≠ "" ∧ spec.name ∉ seen) ∧ (specs.map Spec.name).Nodup := by
  induction specs generalizing seen with
  | nil => simp [checkNames]
  | cons spec rest ih =>
    by_cases hEmpty : spec.name = ""
    · simp [checkNames, hEmpty]
    by_cases hSeen : spec.name ∈ seen
    · simp [checkNames, hEmpty, hSeen]
    have hStep : checkNames seen (spec :: rest) = checkNames (spec.name :: seen) rest := by
      simp [checkNames, hEmpty, hSeen]
    have hNew : spec.name ∉ rest.map Spec.name ↔ ∀ other ∈ rest, other.name ≠ spec.name := by
      simp
    rw [hStep, ih, List.forall_mem_cons, List.map_cons, List.nodup_cons, hNew]
    constructor
    · rintro ⟨hMore, hDistinct⟩
      refine ⟨⟨⟨hEmpty, hSeen⟩, fun other hOther => ?_⟩, fun other hOther => ?_, hDistinct⟩
      · exact ⟨(hMore other hOther).1, List.not_mem_of_not_mem_cons (hMore other hOther).2⟩
      · exact List.ne_of_not_mem_cons (hMore other hOther).2
    · rintro ⟨⟨-, hMore⟩, hOthers, hDistinct⟩
      refine ⟨fun other hOther => ⟨(hMore other hOther).1, ?_⟩, hDistinct⟩
      exact List.not_mem_cons_of_ne_of_not_mem (hOthers other hOther) (hMore other hOther).2

/-- As `OffendsAt`, for names that follow others: the shape that the check meets on its way. -/
def OffendsAfter (seen names : List String) (i : Nat) : Prop :=
  ∃ name, names[i]? = some name ∧ (name = "" ∨ name ∈ seen ∨ ∃ j < i, names[j]? = some name)

theorem offendsAfter_nil_iff {names : List String} {i : Nat} :
    OffendsAfter [] names i ↔ OffendsAt names i := by
  simp [OffendsAfter, OffendsAt]

theorem offendsAfter_zero_iff {name : String} {rest : List String} :
    OffendsAfter seen (name :: rest) 0 ↔ name = "" ∨ name ∈ seen := by
  simp [OffendsAfter]

theorem offendsAfter_succ_iff {name : String} {rest : List String} {i : Nat} :
    OffendsAfter seen (name :: rest) (i + 1) ↔ OffendsAfter (name :: seen) rest i := by
  unfold OffendsAfter
  refine exists_congr fun other => and_congr_right fun _ => or_congr_right ?_
  rw [List.mem_cons, or_assoc, or_left_comm]
  refine or_congr_right ?_
  constructor
  · rintro ⟨j, hj, hName⟩
    cases j with
    | zero => exact .inl (Option.some.inj hName).symm
    | succ j => exact .inr ⟨j, Nat.lt_of_succ_lt_succ hj, hName⟩
  · rintro (rfl | ⟨j, hj, hName⟩)
    · exact ⟨0, Nat.succ_pos i, rfl⟩
    · exact ⟨j + 1, Nat.succ_lt_succ hj, hName⟩

theorem isLeast_iff_zero_or_succ {p : Nat → Prop} {i : Nat} :
    IsLeast {i | p i} i ↔
      p 0 ∧ i = 0 ∨ ¬p 0 ∧ ∃ k, IsLeast {k | p (k + 1)} k ∧ i = k + 1 := by
  constructor
  · rintro ⟨hi, hLower⟩
    by_cases hZero : p 0
    · exact .inl ⟨hZero, Nat.le_zero.mp (hLower hZero)⟩
    · cases i with
      | zero => exact absurd hi hZero
      | succ k => exact .inr ⟨hZero, k, ⟨hi, fun j hj => Nat.le_of_succ_le_succ (hLower hj)⟩, rfl⟩
  · rintro (⟨hZero, rfl⟩ | ⟨hZero, k, ⟨hk, hLower⟩, rfl⟩)
    · exact ⟨hZero, fun j _ => Nat.zero_le j⟩
    · refine ⟨hk, fun j hj => ?_⟩
      cases j with
      | zero => exact absurd hj hZero
      | succ j => exact Nat.succ_le_succ (hLower hj)

theorem isLeast_offendsAfter_cons_iff {name : String} {rest : List String} {i : Nat} :
    IsLeast {i | OffendsAfter seen (name :: rest) i} i ↔
      (name = "" ∨ name ∈ seen) ∧ i = 0 ∨ ¬(name = "" ∨ name ∈ seen) ∧
        ∃ k, IsLeast {k | OffendsAfter (name :: seen) rest k} k ∧ i = k + 1 := by
  rw [isLeast_iff_zero_or_succ]
  simp only [offendsAfter_zero_iff, offendsAfter_succ_iff]

theorem blames_iff {name : String} {fault : NameFault} :
    Blames name fault ↔ fault = if name = "" then .empty else .duplicate name := by
  by_cases hName : name = ""
  · rw [if_pos hName]
    constructor
    · intro h
      exact (h.empty hName).1
    · rintro rfl
      exact ⟨fun _ => ⟨rfl, rfl⟩, fun hNot => absurd hName hNot⟩
  · rw [if_neg hName]
    constructor
    · intro h
      exact (h.duplicate hName).1
    · rintro rfl
      exact ⟨fun hEmpty => absurd hEmpty hName, fun _ => ⟨rfl, rfl⟩⟩

/-- The check stops at the first name that offends. -/
theorem checkNames_eq_error_iff {fault : NameFault} :
    checkNames seen specs = .error fault ↔
      ∃ i name, IsLeast {i | OffendsAfter seen (specs.map Spec.name) i} i ∧
        (specs.map Spec.name)[i]? = some name ∧ Blames name fault := by
  simp only [blames_iff]
  -- Every step moves a name to those seen, so that the least position moves down by one.
  induction specs generalizing seen with
  | nil => simp [checkNames]
  | cons spec rest ih =>
    simp only [List.map_cons, isLeast_offendsAfter_cons_iff]
    by_cases hEmpty : spec.name = ""
    · simp [checkNames, hEmpty, eq_comm]
    by_cases hSeen : spec.name ∈ seen
    · simp [checkNames, hEmpty, hSeen, eq_comm]
    have hStep : checkNames seen (spec :: rest) = checkNames (spec.name :: seen) rest := by
      simp [checkNames, hEmpty, hSeen]
    rw [hStep, ih]
    constructor
    · rintro ⟨i, name, hLeast, hName, hFault⟩
      exact ⟨i + 1, name, .inr ⟨by simp [hEmpty, hSeen], i, hLeast, rfl⟩, hName, hFault⟩
    · rintro ⟨_, name, ⟨hFirst, -⟩ | ⟨-, i, hLeast, rfl⟩, hName, hFault⟩
      · exact absurd hFirst (by simp [hEmpty, hSeen])
      · exact ⟨i, name, hLeast, hName, hFault⟩

end Check

section Reading
variable {manifest : Manifest} {files : Files} {path : Path} {text : String}

theorem validate_eq_ok_iff : manifest.validate = .ok () ↔ ProperNames manifest.names := by
  rw [validate, checkNames_eq_ok_iff, ProperNames, names, List.forall_mem_map]
  simp

theorem validate_eq_error_iff {fault : NameFault} :
    manifest.validate = .error fault ↔
      ∃ i name, IsLeast {i | OffendsAt manifest.names i} i ∧ manifest.names[i]? = some name ∧
        Blames name fault := by
  rw [validate, checkNames_eq_error_iff]
  simp only [offendsAfter_nil_iff, names]

theorem readText_of_describes (h : Describes text manifest) (place : Option Path) :
    readText place text = (manifest.validate.map fun _ => manifest).mapError .names := by
  obtain ⟨members, hText, hMembers⟩ := h
  simp only [readText, hText, hMembers]
  cases manifest.validate <;> rfl

/-- A text that describes no machines is refused before any name is checked. -/
theorem readText_of_not_describes (h : ∀ manifest, ¬Describes text manifest)
    (place : Option Path) :
    readText place text = .error (.notToml place) ∨
      ∃ report, readText place text = .error (.misshapen place report) := by
  unfold readText
  cases hText : Toml.read? text with
  | none => exact .inl rfl
  | some members =>
    cases hMembers : read members.tree with
    | error fault => exact .inr ⟨Toml.report text.toList fault, by simp only [hMembers]⟩
    | ok manifest => exact absurd ⟨members, hText, hMembers⟩ (h manifest)

theorem readText_eq_ok_iff {place : Option Path} :
    readText place text = .ok manifest ↔ Describes text manifest ∧ manifest.validate = .ok () := by
  constructor
  · intro hRead
    by_cases hSome : ∃ other, Describes text other
    · obtain ⟨other, hOther⟩ := hSome
      rw [readText_of_describes hOther, Except.mapError_eq_ok_iff, Except.map_eq_ok_iff] at hRead
      obtain ⟨_, hValid, rfl⟩ := hRead
      exact ⟨hOther, hValid⟩
    · rcases readText_of_not_describes (not_exists.mp hSome) place with hFault | ⟨report, hFault⟩
      · cases hRead.symm.trans hFault
      · cases hRead.symm.trans hFault
  · rintro ⟨hDescribes, hValid⟩
    rw [readText_of_describes hDescribes, hValid]
    rfl

theorem properNames_of_parse (h : parse text = .ok manifest) : ProperNames manifest.names :=
  validate_eq_ok_iff.mp (readText_eq_ok_iff.mp h).2

theorem properNames_of_load (h : load files path = .ok manifest) : ProperNames manifest.names := by
  unfold load at h
  split at h
  · cases h
  · exact validate_eq_ok_iff.mp (readText_eq_ok_iff.mp h).2

end Reading

theorem names_resolveAll (store : Store) (specs : List Spec) :
    (resolveAll store specs).map Descriptor.name = specs.map Spec.name := by
  rw [resolveAll, List.map_map]
  rfl

theorem names_plan {store : Store} {machines : List Descriptor} {guests : List Guest.Definition}
    (h : Guest.plan store machines = .ok guests) :
    guests.map Guest.Definition.name = machines.map Descriptor.name :=
  Guest.map_of_plan_eq_ok (fun _ _ hGuest => hGuest.name.symm) h

/-- What the check of names says of a manifest, and what follows for a manifest that was read. -/
structure NamesChecked (manifest : Manifest) : Prop where
  accepts : manifest.validate = .ok () ↔ ProperNames manifest.names
  refuses : ∀ fault, manifest.validate = .error fault ↔
    ∃ i name, IsLeast {i | OffendsAt manifest.names i} i ∧ manifest.names[i]? = some name ∧
      Blames name fault
  read : (∃ text, parse text = .ok manifest) ∨ (∃ files path, load files path = .ok manifest) →
    ProperNames manifest.names
  resolved : ProperNames manifest.names → ∀ store : Store,
    ProperNames ((resolveAll store manifest.machines).map Descriptor.name)
  planned : ProperNames manifest.names → ∀ (store : Store) (guests : List Guest.Definition),
    Guest.plan store (resolveAll store manifest.machines) = .ok guests →
      ProperNames (guests.map Guest.Definition.name)

/-- A manifest passes the check exactly if its names are proper, and fails it because of the first
one that is not. -/
theorem namesChecked (manifest : Manifest) : NamesChecked manifest where
  accepts := validate_eq_ok_iff
  refuses _ := validate_eq_error_iff
  read := by
    rintro (⟨text, hParse⟩ | ⟨files, path, hLoad⟩)
    · exact properNames_of_parse hParse
    · exact properNames_of_load hLoad
  resolved hNames store := by
    rwa [names_resolveAll]
  planned hNames store guests hPlan := by
    rwa [names_plan hPlan, names_resolveAll]

/-- The second `ad` comes before the empty name. -/
example :
    let spec (name : String) : Spec := ⟨name, .linux, "h", "10.0.0.1", none, none, none⟩
    validate ⟨[spec "ad", spec "ipa", spec "ad", spec ""]⟩ = .error (.duplicate "ad") := rfl

end Fleet.Manifest
