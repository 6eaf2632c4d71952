import Fleet.Tree.Fault

/-!
# Trees with places

A tree is a value as it stood in some text: its nodes know where a fault about them is reported,
and a value that could not be read to its end has a `broken` node with the reason. Typed reading
walks the tree in text order and stops at the first fault it meets, so of a flaw in the text and a
wrongly shaped value the earlier one is reported. A list or record that breaks off is `cut`.
-/
namespace Fleet

inductive Ending (P : Type) where
  | closed (after : Option P)
  | cut (fault : Fault P)

/-- What surrounds an item of a list. `settle` is the place of a fault in the item that has none,
`close` says why the list could not end after the item. -/
structure Slot (P : Type) where
  settle : Option P
  close : Option (Fault P)

/-- What surrounds the value of a member. `skim` says why a value that nobody asks for cannot be
passed over. -/
structure Label (P : Type) where
  key : String
  keyPlace : Option P
  settle : Option P
  skim : Option (Fault P)

inductive Tree (P : Type) where
  | scalar (value : Scalar) (place : Option P)
  | list (place : Option P) (items : List (Slot P × Tree P)) (ending : Ending P)
  | record (place : Option P) (members : List (Label P × Tree P)) (ending : Ending P)
  | broken (fault : Fault P)

namespace Tree
variable {P : Type}

def ended (ending : Ending P) : Except (Fault P) Unit :=
  match ending with
  | .closed _ => .ok ()
  | .cut fault => .error fault

mutual
/-- The value of a tree, members in the order of the text, or its first fault. -/
def value : Tree P → Except (Fault P) Json
  | scalar .null _ => .ok .null
  | scalar (.bool b) _ => .ok (.bool b)
  | scalar (.number n) _ => .ok (.number n)
  | scalar (.special text) place => .error ⟨.refused text, place⟩
  | scalar (.string s) _ => .ok (.string s)
  | list _ items ending => do
    let items ← itemValues items
    ended ending
    return .array items
  | record _ members ending => do
    let members ← memberValues members
    ended ending
    return .object members
  | broken fault => .error fault

def itemValues : List (Slot P × Tree P) → Except (Fault P) (List Json)
  | [] => .ok []
  | (_, tree) :: rest => do
    let first ← value tree
    let rest ← itemValues rest
    return first :: rest

def memberValues : List (Label P × Tree P) → Except (Fault P) (List (String × Json))
  | [] => .ok []
  | (label, tree) :: rest => do
    let first ← value tree
    let rest ← memberValues rest
    return (label.key, first) :: rest
end

mutual
/-- A value seen as a tree without places. `surplus total used` is the fault of a list that is
longer than wanted. -/
def ofJson (surplus : Nat → Nat → Cause) : Json → Tree Empty
  | .null => scalar .null none
  | .bool b => scalar (.bool b) none
  | .number n => scalar (.number n) none
  | .string s => scalar (.string s) none
  | .array items => list none (ofItems surplus items.length 1 items) (.closed none)
  | .object members => record none (ofMembers surplus members) (.closed none)

def ofItems (surplus : Nat → Nat → Cause) (total used : Nat) :
    List Json → List (Slot Empty × Tree Empty)
  | [] => []
  | item :: rest =>
    (⟨none, if used < total then some ⟨surplus total used, none⟩ else none⟩, ofJson surplus item) ::
      ofItems surplus total (used + 1) rest

def ofMembers (surplus : Nat → Nat → Cause) :
    List (String × Json) → List (Label Empty × Tree Empty)
  | [] => []
  | (key, value) :: rest => (⟨key, none, none, none⟩, ofJson surplus value) :: ofMembers surplus rest
end

end Tree

end Fleet
