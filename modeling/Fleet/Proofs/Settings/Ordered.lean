import Fleet.Proofs.Except
import Fleet.Proofs.HashMap
import Fleet.Settings.Layer

/-!
# The layer of a file has each key once

Whatever the format of a file, its layer is a table with ascending keys, and so is every table in
it that is no item of an array. Once a layer is put in the order in which it is gone through, the
keys need not ascend any more, but each of them still stands there once.
-/
namespace Fleet.Settings

/-- All tables that are reached through members alone have ascending keys. -/
inductive Ordered : Value → Prop where
  | scalar {value : Scalar} {origin : Option String} : Ordered (.scalar value origin)
  | array {items : List Value} {origin : Option String} : Ordered (.array items origin)
  | table {members : Members} : Entries.Ascending members →
      (∀ member ∈ members, Ordered member.2) → Ordered (.table members)

/-- All tables that are reached through members alone have each key once. -/
inductive Distinct : Value → Prop where
  | scalar {value : Scalar} {origin : Option String} : Distinct (.scalar value origin)
  | array {items : List Value} {origin : Option String} : Distinct (.array items origin)
  | table {members : Members} : (members.map Prod.fst).Nodup →
      (∀ member ∈ members, Distinct member.2) → Distinct (.table members)

variable {members : Members} {value : Value} {key origin : String}

theorem Distinct.nodup (h : Distinct (.table members)) : (members.map Prod.fst).Nodup := by
  cases h with
  | table hNodup _ => exact hNodup

theorem Distinct.member (h : Distinct (.table members)) : ∀ member ∈ members, Distinct member.2 := by
  cases h with
  | table _ hMembers => exact hMembers

theorem Ordered.distinct (h : Ordered value) : Distinct value := by
  induction h with
  | scalar => exact .scalar
  | array => exact .array
  | table hAscending _ ih => exact .table hAscending.nodup_keys ih

theorem Ordered.ascending (h : Ordered (.table members)) : Entries.Ascending members := by
  cases h with
  | table hAscending _ => exact hAscending

theorem Ordered.member (h : Ordered (.table members)) : ∀ member ∈ members, Ordered member.2 := by
  cases h with
  | table _ hMembers => exact hMembers

theorem Ordered.nil : Ordered (.table []) := .table List.Pairwise.nil (by simp)

theorem Ordered.put (h : Ordered (.table members)) (hValue : Ordered value) :
    Ordered (.table (Entries.put key value members)) := by
  refine .table (h.ascending.put key value) fun member hMember => ?_
  rcases Entries.mem_put hMember with rfl | hMember
  · exact hValue
  · exact h.member member hMember

mutual
theorem ordered_ofToml : (item : Toml.Item) → Ordered (ofToml origin item)
  | .scalar _ => .scalar
  | .moment _ => .scalar
  | .array _ => .array
  | .table _ members => ordered_ofTomlMembers members .nil
  | .tables _ => .array

theorem ordered_ofTomlMembers {before : Members} :
    (members : List (Toml.Key × Toml.Span × Toml.Item)) → Ordered (.table before) →
      Ordered (.table (ofTomlMembers origin before members))
  | [], h => h
  | (_, _, item) :: rest, h => ordered_ofTomlMembers rest (h.put (ordered_ofToml item))
end

theorem ofJsonMembers_put (json : Json) (members : List (String × Json)) :
    ofJsonMembers origin (Entries.put key json members) =
      Entries.put key (ofJson origin json) (ofJsonMembers origin members) := by
  induction members with
  | nil => rfl
  | cons member rest ih =>
    obtain ⟨other, first⟩ := member
    simp only [Entries.put, ofJsonMembers]
    split
    · rfl
    · split
      · rw [ofJsonMembers, ih]
      · rfl

mutual
theorem ordered_ofJson_sorted : (json : Json) → Ordered (ofJson origin json.sorted)
  | .null => .scalar
  | .bool _ => .scalar
  | .number _ => .scalar
  | .string _ => .scalar
  | .array _ => .array
  | .object members => ordered_ofJson_sortedMembers members .nil

theorem ordered_ofJson_sortedMembers {before : List (String × Json)} :
    (members : List (String × Json)) → Ordered (.table (ofJsonMembers origin before)) →
      Ordered (.table (ofJsonMembers origin (Json.sortedMembers before members)))
  | [], h => h
  | (_, json) :: rest, h => by
    refine ordered_ofJson_sortedMembers rest ?_
    rw [ofJsonMembers_put]
    exact h.put (ordered_ofJson_sorted json)
end

mutual
theorem ordered_sorted : (value : Value) → Ordered value.sorted
  | .scalar _ _ => .scalar
  | .array _ _ => .array
  | .table members => ordered_sortedMembers members .nil

theorem ordered_sortedMembers {before : Members} : (members : List (String × Value)) →
    Ordered (.table before) → Ordered (.table (Value.sortedMembers before members))
  | [], h => h
  | (_, value) :: rest, h => ordered_sortedMembers rest (h.put (ordered_sorted value))
end

section Formats
variable {formats : Formats} {format : Format} {source text : String} {layer : Members}

theorem mem_all_iff : format ∈ formats.all ↔
    format = .toml ∨ format = .json ∨ ∃ further ∈ formats.further, further.format = format := by
  simp [Formats.all, Entries.mem_arrange_iff, eq_comm]

theorem ordered_parseToml (h : Format.parseToml source text = .ok layer) :
    Ordered (.table layer) := by
  unfold Format.parseToml at h
  split at h
  · next members _ =>
    cases h
    exact ordered_ofTomlMembers members .nil
  · cases h

theorem ordered_parseJson (h : Format.parseJson source text = .ok layer) :
    Ordered (.table layer) := by
  unfold Format.parseJson at h
  split at h
  · cases h
  · next json hRead =>
    obtain ⟨unsorted, -, rfl⟩ := Except.map_eq_ok_iff.mp hRead
    split at h
    · next hTable =>
      cases h
      exact hTable ▸ ordered_ofJson_sorted unsorted
    · cases h

/-- How a further format is read is not known, but its members are sorted afterwards. -/
theorem ordered_parseFurther {further : FurtherFormat}
    (h : further.format.parse source text = .ok layer) : Ordered (.table layer) := by
  simp only [FurtherFormat.format] at h
  split at h
  · cases h
    exact ordered_sortedMembers _ .nil
  · cases h

theorem ordered_parse (hFormat : format ∈ formats.all) (h : format.parse source text = .ok layer) :
    Ordered (.table layer) := by
  rcases mem_all_iff.mp hFormat with rfl | rfl | ⟨further, -, rfl⟩
  · exact ordered_parseToml h
  · exact ordered_parseJson h
  · exact ordered_parseFurther h

end Formats

section Files
variable {host : Host} {path found : Path} {format : Format} {layer : Members}

theorem format_mem_all (h : findFile host path = .ok (found, format)) :
    format ∈ host.formats.all := by
  unfold findFile at h
  split at h
  · split at h
    · next hFormat =>
      cases h
      exact List.mem_of_find?_eq_some hFormat
    · cases h
  · split at h
    · next hFound =>
      cases h
      obtain ⟨other, hOther, hEnding⟩ := List.mem_flatMap.mp (List.mem_of_find?_eq_some hFound)
      obtain ⟨ending, -, hPath⟩ := List.mem_flatMap.mp hEnding
      obtain ⟨_, -, hPair⟩ := List.mem_map.mp hPath
      cases hPair
      exact hOther
    · cases h

theorem ordered_fileLayer (h : fileLayer host path = .ok layer) : Ordered (.table layer) := by
  obtain ⟨⟨found, format⟩, hFound, hRead⟩ := Except.bind_eq_ok_iff.mp h
  simp only at hRead
  split at hRead
  · cases hRead
  · exact ordered_parse (format_mem_all hFound) hRead

end Files

end Fleet.Settings
