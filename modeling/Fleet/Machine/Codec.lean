import Fleet.Machine.Basic
import Fleet.Tree.Decode

/-!
# Written forms of machines

Machines are written as JSON objects with their fields in a fixed order and `null` for a field
that is open. The same shapes are read from JSON and from manifests. A kind is read as a string
first, so that a wrong name is a fault without a place of its own.
-/
namespace Fleet.Machine
variable {P : Type}

def Kind.toJson (kind : Kind) : Json := .string kind.name

def Kind.read (tree : Tree P) : Except (Fault P) Kind := do
  match Kind.ofName? (← tree.text) with
  | .ok kind => .ok kind
  | .error unknown => .error ⟨.refused s!"Machine manifest error: {unknown.message}", none⟩

def memoryJson (memory : Option UInt64) : Json :=
  match memory with
  | none => .null
  | some n => .natural n.toNat

def Spec.toJson (spec : Spec) : Json := .object [
  ("name", .string spec.name),
  ("kind", spec.kind.toJson),
  ("hostname", .string spec.hostname),
  ("ip", .string spec.ip),
  ("memory", memoryJson spec.memory),
  ("box", .ofOption spec.box),
  ("url", .ofOption spec.url)]

def Descriptor.toJson (machine : Descriptor) : Json := .object [
  ("name", .string machine.name),
  ("kind", machine.kind.toJson),
  ("hostname", .string machine.hostname),
  ("ip", .string machine.ip),
  ("memory", .natural machine.memory.toNat),
  ("box", .string machine.box),
  ("url", .ofOption machine.url)]

structure Spec.Draft where
  name : Option String := none
  kind : Option Kind := none
  hostname : Option String := none
  ip : Option String := none
  memory : Option (Option UInt64) := none
  box : Option (Option String) := none
  url : Option (Option String) := none

def Spec.fields : List (Tree.Field P Spec.Draft) := [
  ⟨"name", false, (·.name.isSome), fun t => t.text.map fun v d => { d with name := some v }⟩,
  ⟨"kind", false, (·.kind.isSome), fun t => (Kind.read t).map fun v d => { d with kind := some v }⟩,
  ⟨"hostname", false, (·.hostname.isSome),
    fun t => t.text.map fun v d => { d with hostname := some v }⟩,
  ⟨"ip", false, (·.ip.isSome), fun t => t.text.map fun v d => { d with ip := some v }⟩,
  ⟨"memory", true, (·.memory.isSome),
    fun t => (t.optional Tree.word).map fun v d => { d with memory := some v }⟩,
  ⟨"box", true, (·.box.isSome),
    fun t => (t.optional Tree.text).map fun v d => { d with box := some v }⟩,
  ⟨"url", true, (·.url.isSome),
    fun t => (t.optional Tree.text).map fun v d => { d with url := some v }⟩]

def Spec.Draft.finish (draft : Spec.Draft) : Except String Spec :=
  match draft.name, draft.kind, draft.hostname, draft.ip with
  | none, _, _, _ => .error "name"
  | _, none, _, _ => .error "kind"
  | _, _, none, _ => .error "hostname"
  | _, _, _, none => .error "ip"
  | some name, some kind, some hostname, some ip =>
    .ok ⟨name, kind, hostname, ip, draft.memory.join, draft.box.join, draft.url.join⟩

def Spec.shape : Tree.Shape P Spec.Draft Spec := ⟨"MachineSpec", Spec.fields, {}, Draft.finish⟩

def Spec.read (tree : Tree P) : Except (Fault P) Spec := Spec.shape.read tree

def FallbackBoxes.toJson (boxes : FallbackBoxes) : Json :=
  .object [("linux", .string boxes.linux), ("windows", .string boxes.windows)]

structure FallbackBoxes.Draft where
  linux : Option String := none
  windows : Option String := none

def FallbackBoxes.Draft.finish (draft : Draft) : Except String FallbackBoxes :=
  match draft.linux, draft.windows with
  | none, _ => .error "linux"
  | _, none => .error "windows"
  | some linux, some windows => .ok ⟨linux, windows⟩

def FallbackBoxes.shape : Tree.Shape P Draft FallbackBoxes where
  name := "FallbackBoxes"
  fields := [
    ⟨"linux", false, (·.linux.isSome), fun t => t.text.map fun v d => { d with linux := some v }⟩,
    ⟨"windows", false, (·.windows.isSome),
      fun t => t.text.map fun v d => { d with windows := some v }⟩]
  draft := {}
  finish := Draft.finish

def FallbackBoxes.read (tree : Tree P) : Except (Fault P) FallbackBoxes := shape.read tree

end Fleet.Machine
