import Fleet.Store

/-!
# Resolving machines

A field that a specification leaves open is settled from the store. An empty box or address counts
as open; a memory of nought does not.
-/
namespace Fleet.Machine

def nonempty (text : Option String) : Option String := text.filter fun s => s ≠ ""

def Spec.resolve (store : Store) (spec : Spec) : Descriptor where
  name := spec.name
  kind := spec.kind
  hostname := spec.hostname
  ip := spec.ip
  memory := spec.memory.getD (store.memory spec.name)
  box := (nonempty spec.box).getD (store.box spec.kind spec.name)
  url := (nonempty spec.url).or (store.boxUrl spec.name)

def resolveAll (store : Store) (specs : List Spec) : List Descriptor :=
  specs.map (Spec.resolve store)

end Fleet.Machine
