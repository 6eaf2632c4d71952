import Fleet.Machine.Codec

/-!
# Manifests

A manifest lists the machines of a run in order. Their names must be non-empty and differ from
each other; the first machine that breaks this is reported.
-/
namespace Fleet

structure Manifest where
  machines : List Machine.Spec
  deriving DecidableEq

namespace Manifest
variable {P : Type}

inductive NameFault where
  | empty
  | duplicate (name : String)
  deriving DecidableEq, Repr

def NameFault.message : NameFault → String
  | empty => "Machine name cannot be empty"
  | duplicate name => s!"Duplicate machine name '{name}'"

/-- Checks the names of machines that follow machines with the names `seen`. -/
def checkNames (seen : List String) : List Machine.Spec → Except NameFault Unit
  | [] => .ok ()
  | spec :: rest =>
    if spec.name = "" then .error .empty
    else if spec.name ∈ seen then .error (.duplicate spec.name)
    else checkNames (spec.name :: seen) rest

def validate (manifest : Manifest) : Except NameFault Unit := checkNames [] manifest.machines

def toJson (manifest : Manifest) : Json :=
  .object [("machine", .array (manifest.machines.map Machine.Spec.toJson))]

structure Draft where
  machines : Option (List Machine.Spec) := none

def shape : Tree.Shape P Draft Manifest where
  name := "MachineManifest"
  fields := [⟨"machine", true, (·.machines.isSome),
    fun t => (t.listOf Machine.Spec.read).map fun v d => { d with machines := some v }⟩]
  draft := {}
  finish draft := .ok ⟨draft.machines.getD []⟩

def read (tree : Tree P) : Except (Fault P) Manifest := shape.read tree

end Manifest

end Fleet
