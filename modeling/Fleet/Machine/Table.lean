import Fleet.Machine.Basic
import Fleet.Text.Table

/-!
# Tables of machines

Machines are shown one a row. Memory of nought is shown as `default` and a missing address as a
dash. Where there is nothing to show, a sentence says so.
-/
namespace Fleet

namespace Machine

def memoryText (memory : UInt64) : String :=
  if memory = 0 then "default" else s!"{memory.toNat} MB"

def row (machine : Descriptor) : List String :=
  [machine.name, machine.kind.name, machine.hostname, machine.ip, memoryText machine.memory,
    machine.box, machine.url.getD "-"]

def table (machines : List Descriptor) : Text.Table :=
  .ofStrings ["Name", "Kind", "Hostname", "IP", "Memory", "Box", "URL"] (machines.map row)

def listing (machines : List Descriptor) : String :=
  if machines.isEmpty then "No machines in manifest.\n" else (table machines).render ++ "\n"

end Machine

end Fleet
