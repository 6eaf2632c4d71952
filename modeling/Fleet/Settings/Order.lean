import Fleet.HashMap
import Fleet.Settings.KeyPath

/-!
# The order in which tables are gone through

Variables, layers and tables are hash maps, and each of them is gone through in an order of its own.
An order says for every map that loading settings goes through how its keys are ranked. Putting a
value in order leaves everything in it but the order of the members of its tables. Nothing else is
known of an order: what is said of settings holds for every order, or says on which it depends.
-/
namespace Fleet.Settings

/-- What is gone through: the variables, a layer, all layers together, what is read in the end, and
the levels of modules that were read. -/
inductive Pass where
  | variables
  | layer (index : Nat)
  | gathered
  | reading
  | modules
  deriving DecidableEq, Repr

/-- The ranks of the keys of a table, which is found by the steps that lead to it. -/
abbrev Ranks := List Step → String → Nat

def Ranks.below (ranks : Ranks) (step : Step) : Ranks := fun steps => ranks (step :: steps)

structure Order where
  ranks : Pass → Ranks

/-- Leaves everything as it is. -/
def Order.plain : Order := ⟨fun _ _ _ => 0⟩

namespace Value

mutual
def inOrder (ranks : Ranks) : Value → Value
  | scalar value origin => scalar value origin
  | array items origin => array (itemsInOrder ranks 0 items) origin
  | table members => table (Entries.arrange (ranks []) (membersInOrder ranks members))

def itemsInOrder (ranks : Ranks) (index : Nat) : List Value → List Value
  | [] => []
  | item :: rest => item.inOrder (ranks.below (.item index)) :: itemsInOrder ranks (index + 1) rest

/-- The values of members are put in order; the members stay where they are. -/
def membersInOrder (ranks : Ranks) : List (String × Value) → List (String × Value)
  | [] => []
  | (key, value) :: rest =>
    (key, value.inOrder (ranks.below (.member key))) :: membersInOrder ranks rest
end

end Value

/-- The members of a table in the order in which they are gone through. -/
def Members.inOrder (ranks : Ranks) (members : Members) : Members :=
  Entries.arrange (ranks []) (Value.membersInOrder ranks members)

end Fleet.Settings
