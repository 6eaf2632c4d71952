import Fleet.Machine.Kind

/-!
# Machines

A specification says what the caller of a run wants of a machine; its last three fields may be
left open. A descriptor is the same machine with all of them settled, except that a box may have
no address to fetch it from. Memory is in megabytes, and nought leaves it to the provider.
-/
namespace Fleet.Machine

structure Spec where
  name : String
  kind : Kind
  hostname : String
  ip : String
  memory : Option UInt64
  box : Option String
  url : Option String
  deriving DecidableEq, Repr

structure Descriptor where
  name : String
  kind : Kind
  hostname : String
  ip : String
  memory : UInt64
  box : String
  url : Option String
  deriving DecidableEq, Repr

/-- The boxes of machines that name none. -/
structure FallbackBoxes where
  linux : String
  windows : String
  deriving DecidableEq, Repr

namespace FallbackBoxes

def standard : FallbackBoxes := ⟨"sssd-fedora", "sssd-windows"⟩

def ofKind (boxes : FallbackBoxes) : Kind → String
  | .linux => boxes.linux
  | .windows => boxes.windows

end FallbackBoxes

end Fleet.Machine
