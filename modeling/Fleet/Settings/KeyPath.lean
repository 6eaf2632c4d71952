import Fleet.Settings.Value

/-!
# Key paths

The top keys of a layer may be paths: a name, then members after a point and items in brackets. A
key that is no path is a plain name. What a path passes through comes into being as it is needed,
and is replaced where it has the wrong shape. Only the last name of a path is folded to lower case.
-/
namespace Fleet.Settings

inductive Step where
  | member (name : String)
  | item (index : Int)
  deriving DecidableEq, Repr

def isNameChar (c : Char) : Bool := c.isAlphanum || c == ' ' || c == '_' || c == '-'

def isGap (c : Char) : Bool := c == ' ' || c == '\t'

/-- A non-empty name at the front of a text. -/
def readName (text : List Char) : Option (String × List Char) :=
  let name := text.takeWhile isNameChar
  if name.isEmpty then none else some (String.ofList name, text.dropWhile isNameChar)

/-- An index of 64 bits up to its closing bracket. -/
def readIndex (text : List Char) : Option (Int × List Char) := do
  let text := text.dropWhile isGap
  let negative := text.head? == some '-'
  let text := if negative then text.drop 1 else text
  let digits := text.takeWhile Char.isDigit
  guard (digits ≠ [])
  let size : Nat := digits.foldl (fun value c => value * 10 + (c.toNat - 48)) 0
  let index : Int := if negative then -size else size
  guard (-Number.signedEnd ≤ index ∧ index < Number.signedEnd)
  match (text.dropWhile Char.isDigit).dropWhile isGap with
  | ']' :: rest => return (index, rest)
  | _ => none

def readSteps : Nat → List Char → Option (List Step)
  | 0, _ => none
  | _ + 1, [] => some []
  | fuel + 1, '.' :: rest => do
    let (name, rest) ← readName rest
    return .member name :: (← readSteps fuel rest)
  | fuel + 1, '[' :: rest => do
    let (index, rest) ← readIndex rest
    return .item index :: (← readSteps fuel rest)
  | _ + 1, _ => none

/-- A first name and the steps below it. -/
def readPath (key : String) : Option (String × List Step) := do
  let (name, rest) ← readName key.toList
  return (name, ← readSteps (rest.length + 1) rest)

namespace Value

/-- Sets a value at the end of some steps below `target`. -/
def setBelow (target : Value) (value : Value) : List Step → Value
  | [] => value
  | [.member name] => setMember target name value
  | .member name :: rest =>
    let inner := (Entries.get? name target.members).getD nil
    table (Entries.put name (setBelow inner value rest) target.members)
  | .item index :: rest =>
    let place := position index target.items.length
    array (changeItem (fun inner => setBelow inner value rest) place target.items)
      target.originOfItems

/-- Sets a value at a top key of a layer. -/
def setKey (root : Value) (key : String) (value : Value) : Value :=
  match readPath key with
  | none | some (_, []) => setMember root key value
  | some (name, steps) =>
    let inner := (Entries.get? name root.members).getD nil
    table (Entries.put name (setBelow inner value steps) root.members)

def setAll (root : Value) (layer : Members) : Value :=
  layer.foldl (fun root member => root.setKey member.1 member.2) root

end Value

end Fleet.Settings
