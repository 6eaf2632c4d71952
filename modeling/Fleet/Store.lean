import Fleet.Environment
import Fleet.Folders.Listing
import Fleet.Folders.Method
import Fleet.Machine.Basic

/-!
# The store

A store joins the configuration document of a run with its fallback boxes and environment, and
answers what is not said about a machine itself. No lookup fails for lack of data. Shared folders
come from the document and from a variable that overrides it host by host; only a malformed
variable fails, and nothing is read at all while folders are switched off.
-/
namespace Fleet

structure Store where
  document : Document
  fallback : Machine.FallbackBoxes
  env : Environment

/-- The whole number of megabytes that a JSON value stands for. A double at the upper end of the
range, `2^64`, stands for the largest number. -/
def Json.megabytes? : Json → Option UInt64
  | .number (.whole n) => if 0 ≤ n ∧ n < Number.unsignedEnd then some (UInt64.ofNat n.toNat) else none
  | .number (.real x) =>
    match x.magnitude? with
    | none => none
    | some n =>
      if x.negative && n != 0 then none
      else if n < Number.unsignedEnd then some (UInt64.ofNat n)
      else if n = Number.unsignedEnd then some (UInt64.ofNat (n - 1))
      else none
  | _ => none

namespace Store

def memoryNode (store : Store) (name : String) : Option Json :=
  store.document.dig ["boxes", name, "memory"]

def memory (store : Store) (name : String) : UInt64 :=
  ((store.memoryNode name).bind Json.megabytes?).getD 0

def configuredBox (store : Store) (name : String) : Option String :=
  store.document.digString ["boxes", name, "name"]

def box (store : Store) (kind : Machine.Kind) (name : String) : String :=
  (store.configuredBox name).getD (store.fallback.ofKind kind)

def boxUrl (store : Store) (name : String) : Option String :=
  store.document.digString ["boxes", name, "url"]

/-- The mounts in an environment variable; none if it is not set. -/
def overrides (store : Store) (variableName : String) :
    Except Folders.MalformedMount (List Folders.Mount) :=
  match store.env.get? variableName with
  | none => .ok []
  | some value => Folders.parseMounts variableName value

def folders (store : Store) (category variableName : String) :
    Except Folders.MalformedMount FolderMap :=
  if store.env.foldersDisabled then .ok KeyMap.empty
  else do
    let overrides ← store.overrides variableName
    let listed := KeyMap.ofList ((Folders.ofDocument store.document category).map (·.pair))
    return listed.insertAll (overrides.map (·.pair))

def foldersFor (store : Store) (method : Folders.Method) :
    Except Folders.MalformedMount FolderMap :=
  store.folders method.category method.environmentVariable

end Store

end Fleet
