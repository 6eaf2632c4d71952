import Fleet.Json.Reader

/-!
# Configuration documents

A configuration document is a JSON value of any shape. It is asked for the node at a path of keys,
each of which leads from an object to one of its members; a path that meets anything else leads
nowhere, and a null at its end counts as nothing.
-/
namespace Fleet

def Json.member? (key : String) : Json → Option Json
  | .object members => Entries.get? key members
  | _ => none

/-- The node that the keys lead to, one after another. -/
def Json.follow (node : Json) (keys : List String) : Option Json :=
  keys.foldlM (fun node key => node.member? key) node

structure Document where
  root : Json

namespace Document

def empty : Document := ⟨.object []⟩

def isEmpty (document : Document) : Bool :=
  match document.root with
  | .object [] => true
  | _ => false

def dig (document : Document) (keys : List String) : Option Json :=
  (document.root.follow keys).filter fun node => !node.isNull

/-- The string at a path, unless it is empty. -/
def digString (document : Document) (keys : List String) : Option String :=
  (document.dig keys).bind fun node => node.string?.filter fun s => s ≠ ""

def parse (text : String) : Except Json.Refusal Document := (Json.read text).map Document.mk

end Document

end Fleet
