import Fleet.Tree.Basic

/-!
# Typed reading of trees

A reader takes a tree to a typed value or to the first fault in text order. Records are read into
a draft that its fields fill one by one. A record may also be given as a list of its fields in
order; then fields at the end may be missing only if they have a default. Members that no field
claims are passed over, and a field that comes twice is refused.
-/
namespace Fleet.Tree
variable {P α σ : Type}

def mismatch (wanted : String) : Tree P → Fault P
  | scalar value place => ⟨.wrongType (.scalar value) wanted, place⟩
  | list place _ _ => ⟨.wrongType .sequence wanted, place⟩
  | record place _ _ => ⟨.wrongType .map wanted, place⟩
  | broken fault => fault

def settled (place : Option P) (result : Except (Fault P) α) : Except (Fault P) α :=
  result.mapError (Fault.settle place)

def readString (wanted : String) : Tree P → Except (Fault P) String
  | scalar (.string s) _ => .ok s
  | tree => .error (tree.mismatch wanted)

def text (tree : Tree P) : Except (Fault P) String := tree.readString "a string"

def path (tree : Tree P) : Except (Fault P) String := tree.readString "path string"

def flag : Tree P → Except (Fault P) Bool
  | scalar (.bool b) _ => .ok b
  | tree => .error (tree.mismatch "a boolean")

/-- A natural number below `2^64`. -/
def word : Tree P → Except (Fault P) UInt64
  | scalar (.number (.whole n)) place =>
    if 0 ≤ n ∧ n < Number.unsignedEnd then .ok (UInt64.ofNat n.toNat)
    else .error ⟨.wrongValue (.scalar (.number (.whole n))) "u64", place⟩
  | tree => .error (tree.mismatch "u64")

def optional (read : Tree P → Except (Fault P) α) : Tree P → Except (Fault P) (Option α)
  | scalar .null _ => .ok none
  | tree => (read tree).map some

def readItems (read : Tree P → Except (Fault P) α) :
    List (Slot P × Tree P) → Except (Fault P) (List α)
  | [] => .ok []
  | (slot, tree) :: rest => do
    let first ← settled slot.settle (read tree)
    let rest ← readItems read rest
    return first :: rest

def listOf (read : Tree P → Except (Fault P) α) : Tree P → Except (Fault P) (List α)
  | list _ items ending => do
    let items ← readItems read items
    ended ending
    return items
  | tree => .error (tree.mismatch "a sequence")

def readEntries (read : Tree P → Except (Fault P) α) :
    List (Label P × Tree P) → Except (Fault P) (List (String × α))
  | [] => .ok []
  | (label, tree) :: rest => do
    let first ← settled label.settle (read tree)
    let rest ← readEntries read rest
    return (label.key, first) :: rest

/-- A map from keys to values of one type, as its pairs in text order. -/
def entriesOf (read : Tree P → Except (Fault P) α) : Tree P → Except (Fault P) (List (String × α))
  | record _ members ending => do
    let entries ← readEntries read members
    ended ending
    return entries
  | tree => .error (tree.mismatch "a map")

/-- A field of a record that is read into a draft of type `σ`. -/
structure Field (P σ : Type) where
  name : String
  hasDefault : Bool
  filled : σ → Bool
  fill : Tree P → Except (Fault P) (σ → σ)

/-- A record type: its name in faults, its fields in order, the empty draft, and the last step,
which fails with the name of a field that is missing. -/
structure Shape (P σ α : Type) where
  name : String
  fields : List (Field P σ)
  draft : σ
  finish : σ → Except String α

def fillMembers (fields : List (Field P σ)) (draft : σ) :
    List (Label P × Tree P) → Except (Fault P) σ
  | [] => .ok draft
  | (label, tree) :: rest =>
    match fields.find? fun field => field.name == label.key with
    | none =>
      match label.skim with
      | some fault => .error fault
      | none => fillMembers fields draft rest
    | some field =>
      if field.filled draft then .error ⟨.repeated field.name, label.keyPlace⟩
      else
        match settled label.settle (field.fill tree) with
        | .ok set => fillMembers fields (set draft) rest
        | .error fault => .error fault

def Shape.complete (shape : Shape P σ α) (place : Option P) (draft : σ) : Except (Fault P) α :=
  match shape.finish draft with
  | .ok value => .ok value
  | .error field => .error ⟨.missing field, place⟩

def elementCount (n : Nat) : String := if n = 1 then "1 element" else s!"{n} elements"

/-- Fills the fields from a list. `used` counts the items read, `close` belongs to the last. -/
def Shape.fillItems (shape : Shape P σ α) (ending : Ending P) (used : Nat)
    (close : Option (Fault P)) (draft : σ) :
    List (Field P σ) → List (Slot P × Tree P) → Except (Fault P) α
  | [], _ =>
    match close with
    | some fault => .error fault
    | none => shape.complete none draft
  | field :: fields, (slot, tree) :: rest =>
    match settled slot.settle (field.fill tree) with
    | .ok set => shape.fillItems ending (used + 1) slot.close (set draft) fields rest
    | .error fault => .error fault
  | field :: fields, [] =>
    match ending with
    | .cut fault => .error fault
    | .closed after =>
      if (field :: fields).all (·.hasDefault) then shape.complete after draft
      else
        .error ⟨.wrongLength used
          s!"struct {shape.name} with {elementCount shape.fields.length}", after⟩

def Shape.read (shape : Shape P σ α) : Tree P → Except (Fault P) α
  | record _ members ending => do
    let draft ← fillMembers shape.fields shape.draft members
    match ending with
    | .cut fault => .error fault
    | .closed after => shape.complete after draft
  | list _ items ending => shape.fillItems ending 0 none shape.draft shape.fields items
  | tree => .error (tree.mismatch s!"struct {shape.name}")

end Fleet.Tree
