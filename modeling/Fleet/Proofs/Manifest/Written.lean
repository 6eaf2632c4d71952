import Fleet.Proofs.Machine.Fields
import Fleet.Proofs.Manifest.Names
import Fleet.Proofs.Toml.Tables
import Mathlib.Algebra.Group.Nat.Defs

/-!
# Manifests read back

A fleet is written as a TOML document with one table for each machine. `Written` leaves the writer
every freedom that the format has: the order of the fields of a machine, the letter case of its
kind, the escapes in its strings, line breaks and empty lines. Whatever is chosen, the text is read
back to the same machines in the same order, provided that their names pass the check.
-/
namespace Fleet.Manifest
open Machine Fleet.Tree
variable {P : Type}

/-- The document has these machines in its tables, in order. -/
def Written (specs : List Spec) (text : String) : Prop :=
  ∃ tables, List.Forall₂ Spec.AreFields specs tables ∧
    Toml.Lays (tables.flatMap (Toml.tableLines "machine")) text.toList

theorem reads_machines {specs : List Spec} {tables : List (List (String × Json))}
    (h : List.Forall₂ Spec.AreFields specs tables) :
    Reads (P := P) read (.object [("machine", .array (tables.map .object))]) ⟨specs⟩ := by
  have hTables : List.Forall₂ (Reads (P := P) Spec.read) (tables.map .object) specs :=
    List.forall₂_map_left_iff.mpr (h.flip.imp fun _ _ => Spec.reads_fields)
  exact shape.reads_object (.cons _ rfl rfl ((Reads.listOf_forall₂ hTables).map _) (.nil _)) rfl

theorem reads_nothing : Reads (P := P) read (.object []) ⟨[]⟩ :=
  shape.reads_object (.nil _) rfl

theorem parse_of_written {specs : List Spec} {text : String}
    (hNames : ∀ spec ∈ specs, spec.name ≠ "") (hDistinct : (specs.map Spec.name).Nodup)
    (h : Written specs text) : parse text = .ok ⟨specs⟩ := by
  obtain ⟨tables, hFields, hLays⟩ := h
  have hKeys : ∀ fields ∈ tables, (fields.map Prod.fst).Nodup :=
    ((List.forall₂_and_left tables specs).mp
      (hFields.flip.imp fun _ _ (h : Spec.AreFields _ _) => ⟨h.nodup_keys, h⟩)).1
  obtain ⟨members, hRead, hHolds⟩ := Toml.read?_of_tables hKeys hLays
  have hShape : read members.tree = .ok ⟨specs⟩ := by
    rcases hHolds.value with hValue | ⟨rfl, hValue⟩
    · exact reads_machines hFields members.tree hValue
    · cases hFields
      exact reads_nothing members.tree hValue
  have hValid : validate ⟨specs⟩ = .ok () :=
    checkNames_eq_ok_iff.mpr ⟨fun spec hSpec => ⟨hNames spec hSpec, List.not_mem_nil⟩, hDistinct⟩
  simp [parse, readText, hRead, hShape, hValid]

section Texts

theorem writes_memory {n : UInt64} (h : n.toNat < 2 ^ 63) :
    ∃ text, Toml.Writes (.natural n.toNat) text := by
  have hBound : (n.toNat : Int) < Number.signedEnd := by
    simp only [Number.signedEnd]
    omega
  exact ⟨_, .natural hBound⟩

theorem exists_writes_string (s : String) : ∃ text, Toml.Writes (.string s) text := by
  obtain ⟨text, hText⟩ := Toml.exists_quotes s
  exact ⟨text, .string hText⟩

/-- Every field can be written in a line. -/
theorem exists_lineText {spec : Spec} {word : String} {entry : String × Json}
    (hMemory : ∀ n ∈ spec.memory, n.toNat < 2 ^ 63) (hEntry : entry ∈ spec.entries word) :
    ∃ text, Toml.LineText (.assign entry.1 entry.2) text := by
  obtain ⟨key, value⟩ := entry
  have hLine (hKey : Toml.IsBare key) (hValue : ∃ text, Toml.Writes value text) :
      ∃ text, Toml.LineText (.assign key value) text := by
    obtain ⟨text, hText⟩ := hValue
    exact ⟨_, .assign hKey hText⟩
  have hBare : ∀ key ∈ ["name", "kind", "hostname", "ip", "memory", "box", "url"],
      Toml.IsBare key := by
    simp [Toml.IsBare, Toml.isBareKey]
  obtain ⟨rfl, rfl⟩ | ⟨rfl, rfl⟩ | ⟨rfl, rfl⟩ | ⟨rfl, rfl⟩ | ⟨n, hSome, rfl, rfl⟩ |
    ⟨box, -, rfl, rfl⟩ | ⟨url, -, rfl, rfl⟩ := Spec.mem_entries_iff.mp hEntry
  · exact hLine (hBare _ (by simp)) (exists_writes_string spec.name)
  · exact hLine (hBare _ (by simp)) (exists_writes_string word)
  · exact hLine (hBare _ (by simp)) (exists_writes_string spec.hostname)
  · exact hLine (hBare _ (by simp)) (exists_writes_string spec.ip)
  · exact hLine (hBare _ (by simp)) (writes_memory (hMemory n hSome))
  · exact hLine (hBare _ (by simp)) (exists_writes_string box)
  · exact hLine (hBare _ (by simp)) (exists_writes_string url)

theorem exists_tableText {spec : Spec} {fields : List (String × Json)}
    (hMemory : ∀ n ∈ spec.memory, n.toNat < 2 ^ 63) (hFields : spec.AreFields fields) :
    ∀ line ∈ Toml.tableLines "machine" fields, ∃ text, Toml.LineText line text := by
  obtain ⟨word, -, hPerm⟩ := hFields
  have hHeader : Toml.IsBare "machine" := by simp [Toml.IsBare, Toml.isBareKey]
  refine List.forall_mem_cons.mpr ⟨⟨_, .element hHeader⟩, List.forall_mem_map.mpr ?_⟩
  intro entry hEntry
  exact exists_lineText hMemory (hPerm.mem_iff.mp hEntry)

/-- Every order of the fields, with every word for the kinds, can be written. -/
theorem exists_text {specs : List Spec} {tables : List (List (String × Json))}
    (hMemory : ∀ spec ∈ specs, ∀ n ∈ spec.memory, n.toNat < 2 ^ 63)
    (hFields : List.Forall₂ Spec.AreFields specs tables) :
    ∃ text, Toml.Lays (tables.flatMap (Toml.tableLines "machine")) text := by
  refine Toml.exists_lays ?_
  induction hFields with
  | nil => simp
  | cons hFirst _ ih =>
    obtain ⟨hSpec, hMore⟩ := List.forall_mem_cons.mp hMemory
    rw [List.flatMap_cons, List.forall_mem_append]
    exact ⟨exists_tableText hSpec hFirst, ih hMore⟩

theorem exists_written {specs : List Spec}
    (hMemory : ∀ spec ∈ specs, ∀ n ∈ spec.memory, n.toNat < 2 ^ 63) :
    ∃ text, Written specs text := by
  have hFields : List.Forall₂ Spec.AreFields specs
      (specs.map fun spec => spec.entries spec.kind.name) :=
    List.forall₂_map_right_iff.mpr (List.forall₂_same.mpr fun spec _ =>
      ⟨spec.kind.name, spec.kind.isWord_name, .refl _⟩)
  obtain ⟨text, hText⟩ := exists_text hMemory hFields
  exact ⟨String.ofList text, _, hFields, by rwa [String.toList_ofList]⟩

end Texts

/-- A fleet can be written, and whichever way it is, the reader recovers it. -/
theorem parse_written {specs : List Spec} (hNames : ∀ spec ∈ specs, spec.name ≠ "")
    (hDistinct : (specs.map Spec.name).Nodup)
    (hMemory : ∀ spec ∈ specs, ∀ n ∈ spec.memory, n.toNat < 2 ^ 63) :
    (∃ text, Written specs text) ∧ ∀ text, Written specs text → parse text = .ok ⟨specs⟩ :=
  ⟨exists_written hMemory, fun _ => parse_of_written hNames hDistinct⟩

section Pair

/-- Two machines with open fields on either side and a name that needs escapes. -/
def pair : List Spec :=
  [⟨"ipa", .linux, "master.ipa.test", "192.168.100.10", some 1536, none, none⟩,
    ⟨"the \"ad\"\n", .windows, "root.ad.test", "192.168.100.110", none, some "windows-2019",
      some ""⟩]

theorem parse_written_pair :
    ((∀ spec ∈ pair, spec.name ≠ "") ∧ (pair.map Spec.name).Nodup ∧
      ∀ spec ∈ pair, ∀ n ∈ spec.memory, n.toNat < 2 ^ 63) ∧
    (∃ text, Written pair text) ∧ ∀ text, Written pair text → parse text = .ok ⟨pair⟩ := by
  have hNames : ∀ spec ∈ pair, spec.name ≠ "" := by decide
  have hDistinct : (pair.map Spec.name).Nodup := by decide
  have hMemory : ∀ spec ∈ pair, ∀ n ∈ spec.memory, n.toNat < 2 ^ 63 := by simp [pair]
  exact ⟨⟨hNames, hDistinct, hMemory⟩, parse_written hNames hDistinct hMemory⟩

/-- Any order, any letter case, any escape. -/
example : (parse ("[[machine]]\nip = \"::1\"\nmemory = 7\n\nkind = \"wINDOWS\"\n" ++
    "name = \"\\u0061\\\"\"\nhostname = \"d\"")).toOption =
      some ⟨[⟨"a\"", .windows, "d", "::1", some 7, none, none⟩]⟩ := by
  decide +kernel

end Pair

end Fleet.Manifest
