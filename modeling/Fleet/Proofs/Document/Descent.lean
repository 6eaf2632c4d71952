import Fleet.Document

/-!
# Nodes of a document

A key leads from an object to one of its members and from nowhere else. `Reaches` says this of a
whole path as a relation on the tree itself, without the reader of paths; a path reaches at most
one node. The reader finds exactly the reached node that is not null, and the reader of strings
the reached string that is not empty.
-/
namespace Fleet

/-- The keys lead from the first node to the second, through objects only. -/
inductive Json.Reaches : Json → List String → Json → Prop where
  | here (node : Json) : Reaches node [] node
  | member {members : List (String × Json)} {key : String} {keys : List String}
      {child node : Json} :
      Entries.get? key members = some child → Reaches child keys node →
      Reaches (.object members) (key :: keys) node

namespace Json

theorem reaches_nil_iff {root node : Json} : root.Reaches [] node ↔ root = node := by
  constructor
  · intro h
    cases h
    rfl
  · rintro rfl
    exact .here root

theorem reaches_cons_iff {root node : Json} {key : String} {keys : List String} :
    root.Reaches (key :: keys) node ↔
      ∃ child, root.member? key = some child ∧ child.Reaches keys node := by
  constructor
  · rintro ⟨⟩
    rename_i hGet hChild
    exact ⟨_, hGet, hChild⟩
  · rintro ⟨child, hMember, hChild⟩
    cases root with
    | object members => exact .member hMember hChild
    | _ => cases hMember

@[simp] theorem follow_nil (root : Json) : root.follow [] = some root := rfl

theorem follow_cons (root : Json) (key : String) (keys : List String) :
    root.follow (key :: keys) = (root.member? key).bind fun child => child.follow keys := by
  simp [follow]

/-- Following a path finds the node that it reaches. -/
theorem follow_eq_some_iff {root node : Json} {keys : List String} :
    root.follow keys = some node ↔ root.Reaches keys node := by
  induction keys generalizing root with
  | nil => simp [reaches_nil_iff]
  | cons key keys ih =>
    rw [follow_cons, Option.bind_eq_some_iff, reaches_cons_iff]
    simp only [ih]

theorem follow_append (root : Json) (front back : List String) :
    root.follow (front ++ back) = (root.follow front).bind fun node => node.follow back := by
  simp [follow, List.foldlM_append]

theorem Reaches.unique {root left right : Json} {keys : List String}
    (hLeft : root.Reaches keys left) (hRight : root.Reaches keys right) : left = right := by
  rw [← follow_eq_some_iff] at hLeft hRight
  exact Option.some.inj (hLeft.symm.trans hRight)

@[simp] theorem isNull_iff {node : Json} : node.isNull = true ↔ node = .null := by
  cases node <;> simp [isNull]

@[simp] theorem string?_eq_some_iff {node : Json} {s : String} :
    node.string? = some s ↔ node = .string s := by
  cases node <;> simp [string?]

end Json

namespace Document
variable {document : Document} {keys : List String}

theorem dig_eq_some_iff {node : Json} :
    document.dig keys = some node ↔ document.root.Reaches keys node ∧ node ≠ .null := by
  rw [dig, Option.filter_eq_some_iff, Json.follow_eq_some_iff]
  simp [← Json.isNull_iff]

theorem digString_eq_some_iff {s : String} :
    document.digString keys = some s ↔ document.root.Reaches keys (.string s) ∧ s ≠ "" := by
  rw [digString, Option.bind_eq_some_iff]
  constructor
  · rintro ⟨node, hNode, hString⟩
    rw [Option.filter_eq_some_iff, Json.string?_eq_some_iff] at hString
    obtain ⟨rfl, hEmpty⟩ := hString
    exact ⟨(dig_eq_some_iff.mp hNode).1, by simpa using hEmpty⟩
  · rintro ⟨hReach, hEmpty⟩
    refine ⟨.string s, dig_eq_some_iff.mpr ⟨hReach, Json.noConfusion⟩, ?_⟩
    simpa [Option.filter_eq_some_iff] using hEmpty

theorem digString_eq_none_iff :
    document.digString keys = none ↔ ∀ s, document.root.Reaches keys (.string s) → s = "" := by
  rw [Option.eq_none_iff_forall_ne_some]
  simp only [ne_eq, digString_eq_some_iff, not_and, Classical.not_not]

/-- A path is descended piece by piece. A null in between leads nowhere, and so may be dropped. -/
theorem dig_append (document : Document) (front back : List String) :
    document.dig (front ++ back) = (document.dig front).bind fun node => dig ⟨node⟩ back := by
  rw [dig, Json.follow_append, dig]
  cases document.root.follow front with
  | none => rfl
  | some node =>
    cases node with
    | null =>
      cases back with
      | nil => rfl
      | cons key rest => rfl
    | _ => rfl

theorem digString_eq_some_iff_dig {s : String} :
    document.digString keys = some s ↔ s ≠ "" ∧ document.dig keys = some (.string s) := by
  rw [digString_eq_some_iff, dig_eq_some_iff]
  constructor
  · rintro ⟨hReach, hSome⟩
    exact ⟨hSome, hReach, Json.noConfusion⟩
  · rintro ⟨hSome, hReach, -⟩
    exact ⟨hReach, hSome⟩

/-- To descend along two paths is to descend along one and from there along the other. What a path
finds is the node that it reaches, unless that is null, and as a string unless that is empty. -/
theorem descent_composes (document : Document) (front back : List String) :
    (document.dig (front ++ back) =
      match document.dig front with
      | none => none
      | some node => (Document.mk node).dig back) ∧
    document.dig front ≠ some .null ∧
    (∀ node, document.dig front = some node ↔ node ≠ .null ∧ document.root.Reaches front node) ∧
    ∀ s, document.digString front = some s ↔
      s ≠ "" ∧ document.dig front = some (.string s) := by
  refine ⟨?_, ?_, fun node => ?_, fun s => digString_eq_some_iff_dig⟩
  · rw [dig_append]
    cases document.dig front <;> rfl
  · intro hNull
    exact (dig_eq_some_iff.mp hNull).2 rfl
  · rw [dig_eq_some_iff, and_comm]

end Document

end Fleet
