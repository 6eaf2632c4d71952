import Fleet.KeyMap
import Fleet.Text.Letter
import Fleet.Tree.Fault

/-!
# Layered values

Settings are gathered from several layers into one tree of values. A table of a later layer is
merged into the one before it, member by member; any other value replaces what was there. Keys are
folded to lower case as they are set. A value that is not a table remembers where it comes from.
-/
namespace Fleet.Settings

inductive Value where
  | scalar (value : Scalar) (origin : Option String)
  | array (items : List Value) (origin : Option String)
  | table (members : List (String × Value))

abbrev Members := List (String × Value)

namespace Value

def nil : Value := scalar .null none

/-- The members of a table; anything else has none. -/
def members : Value → Members
  | table members => members
  | _ => []

def items : Value → List Value
  | array items _ => items
  | _ => []

def originOfItems : Value → Option String
  | array _ origin => origin
  | _ => none

mutual
/-- What is at a place that holds `existing` after `value` is set there. -/
def combine (existing : Option Value) : Value → Value
  | table incoming => mergeAll (existing.getD (table [])) incoming
  | value => value

/-- Sets members one after another in a value, which becomes a table if it is none. -/
def mergeAll (target : Value) : List (String × Value) → Value
  | [] => target
  | (key, value) :: rest =>
    let folded := Text.lower key
    mergeAll
      (table (Entries.put folded (combine (Entries.get? folded target.members) value)
        target.members)) rest
end

/-- Sets one member. -/
def setMember (target : Value) (key : String) (value : Value) : Value :=
  mergeAll target [(key, value)]

/-- The position that an index stands for; a negative one counts from the end. -/
def position (index : Int) (count : Nat) : Nat :=
  if 0 ≤ index then index.toNat else count - (-index).toNat

/-- Changes the item at a position, after filling the list up to it with nil. -/
def changeItem (change : Value → Value) (place : Nat) (items : List Value) : List Value :=
  (items ++ List.replicate (place + 1 - items.length) nil).modify place change

end Value

end Fleet.Settings
