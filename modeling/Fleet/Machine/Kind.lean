/-!
# Machine kinds

A machine runs Linux or Windows. A kind is written in lower case and read in any mix of ASCII
letter case; no other letters fold into it.
-/
namespace Fleet.Machine

inductive Kind where
  | linux
  | windows
  deriving DecidableEq, Repr

namespace Kind

def name : Kind → String
  | linux => "linux"
  | windows => "windows"

structure Unknown where
  text : String
  deriving DecidableEq

def Unknown.message (e : Unknown) : String :=
  s!"Unknown machine kind '{e.text}' (must be 'linux' or 'windows')"

/-- `Char.toLower` folds the ASCII letters alone. -/
def ofName? (text : String) : Except Unknown Kind :=
  let folded := text.toList.map Char.toLower
  if folded = linux.name.toList then .ok linux
  else if folded = windows.name.toList then .ok windows
  else .error ⟨text⟩

end Kind

end Fleet.Machine
