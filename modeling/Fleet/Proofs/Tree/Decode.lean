import Fleet.Tree.Decode
import Fleet.Proofs.Except
import Mathlib.Data.List.Forall2

/-!
# Typed readers that go by the value

A tree without a fault shows a value, and a typed reader that is given such a tree should not look
at anything else: not at the places, and not at what would be said of a flaw. `Reads read value a`
says so of one value and its reading. A record is read by filling a draft, member after member, so
`Fills` follows the members of an object.
-/
namespace Fleet.Tree
variable {P α β σ : Type}

/-- The forms of a tree without a fault, by the value it shows. -/
inductive Shows : Tree P → Json → Prop where
  | null (place : Option P) : Shows (.scalar .null place) .null
  | bool (b : Bool) (place : Option P) : Shows (.scalar (.bool b) place) (.bool b)
  | number (n : Number) (place : Option P) : Shows (.scalar (.number n) place) (.number n)
  | string (s : String) (place : Option P) : Shows (.scalar (.string s) place) (.string s)
  | list (place after : Option P) {items : List (Slot P × Tree P)} {values : List Json} :
      itemValues items = .ok values → Shows (.list place items (.closed after)) (.array values)
  | record (place after : Option P) {members : List (Label P × Tree P)}
      {values : List (String × Json)} :
      memberValues members = .ok values →
        Shows (.record place members (.closed after)) (.object values)

theorem ended_eq_ok_iff {ending : Ending P} :
    ended ending = .ok () ↔ ∃ after, ending = .closed after := by
  cases ending <;> simp [ended]

theorem value_eq_ok_iff {tree : Tree P} {value : Json} :
    tree.value = .ok value ↔ Shows tree value := by
  constructor
  · intro h
    cases tree with
    | broken fault => cases h
    | scalar s place => cases s <;> cases h <;> constructor
    | list place items ending =>
      obtain ⟨values, hValues, h⟩ := Except.bind_eq_ok_iff.mp h
      obtain ⟨_, hEnded, h⟩ := Except.bind_eq_ok_iff.mp h
      obtain ⟨after, rfl⟩ := ended_eq_ok_iff.mp hEnded
      cases h
      exact .list place after hValues
    | record place members ending =>
      obtain ⟨values, hValues, h⟩ := Except.bind_eq_ok_iff.mp h
      obtain ⟨_, hEnded, h⟩ := Except.bind_eq_ok_iff.mp h
      obtain ⟨after, rfl⟩ := ended_eq_ok_iff.mp hEnded
      cases h
      exact .record place after hValues
  · intro h
    cases h with
    | list place after hValues => simp [value, hValues, ended, bind, Except.bind, pure, Except.pure]
    | record place after hValues =>
      simp [value, hValues, ended, bind, Except.bind, pure, Except.pure]
    | _ => rfl

theorem itemValues_eq_ok_cons_iff {items : List (Slot P × Tree P)} {value : Json}
    {values : List Json} :
    itemValues items = .ok (value :: values) ↔
      ∃ slot tree rest, items = (slot, tree) :: rest ∧ tree.value = .ok value ∧
        itemValues rest = .ok values := by
  cases items with
  | nil => simp [itemValues]
  | cons item rest =>
    obtain ⟨slot, tree⟩ := item
    simp [itemValues, Except.bind_eq_ok_iff, pure, Except.pure, and_assoc, and_comm]

theorem memberValues_eq_ok_cons_iff {members : List (Label P × Tree P)} {key : String}
    {value : Json} {values : List (String × Json)} :
    memberValues members = .ok ((key, value) :: values) ↔
      ∃ label tree rest, members = (label, tree) :: rest ∧ label.key = key ∧
        tree.value = .ok value ∧ memberValues rest = .ok values := by
  cases members with
  | nil => simp [memberValues]
  | cons member rest =>
    obtain ⟨label, tree⟩ := member
    constructor
    · intro h
      obtain ⟨first, hTree, h⟩ := Except.bind_eq_ok_iff.mp h
      obtain ⟨more, hRest, h⟩ := Except.bind_eq_ok_iff.mp h
      cases h
      exact ⟨label, tree, rest, rfl, rfl, hTree, hRest⟩
    · rintro ⟨_, _, _, h, rfl, hTree, hRest⟩
      cases h
      simp [memberValues, hTree, hRest, bind, Except.bind, pure, Except.pure]

theorem itemValues_eq_ok_nil_iff {items : List (Slot P × Tree P)} :
    itemValues items = .ok [] ↔ items = [] := by
  cases items with
  | nil => simp [itemValues]
  | cons item rest => simp [itemValues, Except.bind_eq_ok_iff, pure, Except.pure]

theorem memberValues_eq_ok_nil_iff {members : List (Label P × Tree P)} :
    memberValues members = .ok [] ↔ members = [] := by
  cases members with
  | nil => simp [memberValues]
  | cons member rest => simp [memberValues, Except.bind_eq_ok_iff, pure, Except.pure]

theorem memberValues_keys {members : List (Label P × Tree P)} {values : List (String × Json)}
    (h : memberValues members = .ok values) :
    members.map (fun member => member.1.key) = values.map Prod.fst := by
  induction values generalizing members with
  | nil =>
    rw [memberValues_eq_ok_nil_iff.mp h]
    rfl
  | cons pair values ih =>
    obtain ⟨label, tree, rest, rfl, hKey, -, hRest⟩ := memberValues_eq_ok_cons_iff.mp h
    rw [List.map_cons, List.map_cons, hKey, ih hRest]

mutual
/-- A value seen as a tree shows the value. -/
theorem value_ofJson (surplus : Nat → Nat → Cause) :
    ∀ value : Json, (ofJson surplus value).value = .ok value
  | .null => rfl
  | .bool _ => rfl
  | .number _ => rfl
  | .string _ => rfl
  | .array items => value_eq_ok_iff.mpr (.list none none (itemValues_ofItems surplus _ _ items))
  | .object members =>
    value_eq_ok_iff.mpr (.record none none (memberValues_ofMembers surplus members))

theorem itemValues_ofItems (surplus : Nat → Nat → Cause) (total used : Nat) :
    ∀ items : List Json, itemValues (ofItems surplus total used items) = .ok items
  | [] => rfl
  | item :: rest => itemValues_eq_ok_cons_iff.mpr
      ⟨_, _, _, rfl, value_ofJson surplus item, itemValues_ofItems surplus total (used + 1) rest⟩

theorem memberValues_ofMembers (surplus : Nat → Nat → Cause) :
    ∀ members : List (String × Json), memberValues (ofMembers surplus members) = .ok members
  | [] => rfl
  | (_, value) :: rest => memberValues_eq_ok_cons_iff.mpr
      ⟨_, _, _, rfl, rfl, value_ofJson surplus value, memberValues_ofMembers surplus rest⟩
end

/-- Every tree that shows the value is read alike. -/
def Reads (read : Tree P → Except (Fault P) α) (value : Json) (a : α) : Prop :=
  ∀ tree, tree.value = .ok value → read tree = .ok a

theorem Reads.map {read : Tree P → Except (Fault P) α} {value : Json} {a : α}
    (h : Reads read value a) (f : α → β) : Reads (fun tree => (read tree).map f) value (f a) := by
  intro tree hTree
  simp only [h tree hTree, Except.map]

theorem Reads.settled {read : Tree P → Except (Fault P) α} {value : Json} {a : α}
    (h : Reads read value a) {tree : Tree P} (hTree : tree.value = .ok value) (place : Option P) :
    settled place (read tree) = .ok a := by
  rw [h tree hTree]
  rfl

theorem reads_text (s : String) : Reads (P := P) text (.string s) s := by
  intro tree h
  cases value_eq_ok_iff.mp h
  rfl

theorem reads_flag (b : Bool) : Reads (P := P) flag (.bool b) b := by
  intro tree h
  cases value_eq_ok_iff.mp h
  rfl

theorem reads_word (n : UInt64) : Reads (P := P) word (.natural n.toNat) n := by
  intro tree h
  cases value_eq_ok_iff.mp h with
  | number _ place =>
    have hBound : n.toNat < 18446744073709551616 := n.toNat_lt
    have hRange : (0 : Int) ≤ n.toNat ∧ (n.toNat : Int) < Number.unsignedEnd := by
      simp only [Number.unsignedEnd]
      omega
    simp [word, hRange]

theorem Reads.optional {read : Tree P → Except (Fault P) α} {value : Json} {a : α}
    (h : Reads read value a) (hValue : value ≠ .null) :
    Reads (optional read) value (some a) := by
  intro tree hTree
  have hRead := h tree hTree
  cases value_eq_ok_iff.mp hTree with
  | null => exact absurd rfl hValue
  | _ => simp [Tree.optional, hRead, Except.map]

theorem reads_optional_null (read : Tree P → Except (Fault P) α) :
    Reads (optional read) .null none := by
  intro tree h
  cases value_eq_ok_iff.mp h
  rfl

/-- Text that may be absent is null or a string. -/
theorem reads_ofOption (s : Option String) : Reads (P := P) (optional text) (.ofOption s) s := by
  cases s with
  | none => exact reads_optional_null text
  | some s => exact (reads_text s).optional (by rintro ⟨⟩)

/-- A list is read item by item. -/
theorem Reads.listOf_forall₂ {read : Tree P → Except (Fault P) α} {values : List Json} {as : List α}
    (h : List.Forall₂ (Reads read) values as) : Reads (listOf read) (.array values) as := by
  have hItems : ∀ items, itemValues items = .ok values → readItems read items = .ok as := by
    induction h with
    | nil =>
      intro items hValues
      rw [itemValues_eq_ok_nil_iff.mp hValues]
      rfl
    | cons hRead _ ih =>
      intro items hValues
      obtain ⟨slot, tree, rest, rfl, hTree, hRest⟩ := itemValues_eq_ok_cons_iff.mp hValues
      have hFirst := hRead.settled hTree slot.settle
      have hMore := ih rest hRest
      simp [readItems, hFirst, hMore, bind, Except.bind, pure, Except.pure]
  intro tree hTree
  cases value_eq_ok_iff.mp hTree with
  | list place after hValues =>
    simp [Tree.listOf, hItems _ hValues, ended, bind, Except.bind, pure, Except.pure]

theorem Reads.listOf {read : Tree P → Except (Fault P) α} {write : α → Json} {as : List α}
    (h : ∀ a ∈ as, Reads read (write a) a) : Reads (listOf read) (.array (as.map write)) as :=
  Reads.listOf_forall₂ (List.forall₂_map_left_iff.mpr (List.forall₂_same.mpr h))

/-- A map is read pair by pair, in the order of the text. -/
theorem Reads.entriesOf {read : Tree P → Except (Fault P) α} {write : α → Json}
    {pairs : List (String × α)} (h : ∀ pair ∈ pairs, Reads read (write pair.2) pair.2) :
    Reads (entriesOf read) (.object (pairs.map fun pair => (pair.1, write pair.2))) pairs := by
  have hMembers : ∀ members,
      memberValues members = .ok (pairs.map fun pair => (pair.1, write pair.2)) →
        readEntries read members = .ok pairs := by
    induction pairs with
    | nil =>
      intro members hValues
      rw [memberValues_eq_ok_nil_iff.mp hValues]
      rfl
    | cons pair rest ih =>
      obtain ⟨key, a⟩ := pair
      obtain ⟨hPair, hRest⟩ := List.forall_mem_cons.mp h
      intro members hValues
      obtain ⟨label, tree, more, rfl, rfl, hTree, hMore⟩ :=
        memberValues_eq_ok_cons_iff.mp hValues
      have hFirst := hPair.settled hTree label.settle
      have hTail := ih hRest more hMore
      simp [readEntries, hFirst, hTail, bind, Except.bind, pure, Except.pure]
  intro tree hTree
  cases value_eq_ok_iff.mp hTree with
  | record place after hValues =>
    simp [Tree.entriesOf, hMembers _ hValues, ended, bind, Except.bind, pure, Except.pure]

/-- The members of an object, one after another, fill the draft of a record. -/
inductive Fills (fields : List (Field P σ)) : σ → List (String × Json) → σ → Prop where
  | nil (draft : σ) : Fills fields draft [] draft
  | cons {draft final : σ} {key : String} {value : Json} {rest : List (String × Json)}
      (field : Field P σ) {set : σ → σ} :
      (fields.find? fun field => field.name == key) = some field → field.filled draft = false →
        Reads field.fill value set → Fills fields (set draft) rest final →
          Fills fields draft ((key, value) :: rest) final

theorem Fills.fillMembers {fields : List (Field P σ)} {draft final : σ}
    {values : List (String × Json)} (h : Fills fields draft values final)
    {members : List (Label P × Tree P)} (hMembers : memberValues members = .ok values) :
    fillMembers fields draft members = .ok final := by
  induction h generalizing members with
  | nil draft =>
    rw [memberValues_eq_ok_nil_iff.mp hMembers]
    rfl
  | cons field hField hOpen hFill hRest ih =>
    obtain ⟨label, tree, rest, rfl, rfl, hTree, hMore⟩ := memberValues_eq_ok_cons_iff.mp hMembers
    have hSet := hFill.settled hTree label.settle
    simp [Tree.fillMembers, hField, hOpen, hSet, ih hMore]

/-- A record is read from an object whose members fill its draft. -/
theorem Shape.reads_object (shape : Shape P σ α) {values : List (String × Json)} {final : σ} {a : α}
    (hFills : Fills shape.fields shape.draft values final) (hFinish : shape.finish final = .ok a) :
    Reads shape.read (.object values) a := by
  intro tree hTree
  cases value_eq_ok_iff.mp hTree with
  | record place after hValues =>
    simp [Shape.read, hFills.fillMembers hValues, Shape.complete, hFinish, bind, Except.bind]

end Fleet.Tree
