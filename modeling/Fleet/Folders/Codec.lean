import Fleet.Folders.Method
import Fleet.Folders.Mount
import Fleet.Json.Reader

/-!
# Written forms of folders and ways to mount

A folder map is an object from host to guest. A way to mount is written as its category name; it
may also be read from an object with that name as its only key and null as its value.
-/
namespace Fleet.Folders
open Json
variable {P : Type}

def mapJson (folders : FolderMap) : Json :=
  .object (folders.toList.map fun pair => (pair.1, .string pair.2))

def readMap (tree : Tree P) : Except (Fault P) FolderMap :=
  (tree.entriesOf Tree.text).map KeyMap.ofList

namespace Method

def toJson (method : Method) : Json := .string method.category

def readName : Tree P → Except (Fault P) Method
  | .scalar (.string s) place =>
    match ofCategory? s with
    | some method => .ok method
    | none => .error ⟨.unknownVariant s (all.map category), place⟩
  | tree => .error (tree.mismatch "variant identifier")

def readNull : Tree P → Except (Fault P) Unit
  | .scalar .null _ => .ok ()
  | tree => .error (tree.mismatch "unit")

/-- The text after the opening brace of an object that holds a way to mount. -/
def readKeyed (text : List Char) : Except TextFault (Method × List Char) := do
  let key := readTree text
  let method ← readName key.tree
  let rest ← readColon (← key.follow text)
  let value := readTree rest
  readNull value.tree
  let rest ← value.follow rest
  match skipSpace rest with
  | [] => .error (flawAt .endInObject [])
  | c :: after =>
    if c = '\x7d' then .ok (method, after) else .error (flawAt .expectedValue (c :: after))

def readText (text : List Char) : Except TextFault Method := do
  let (method, rest) ←
    match skipSpace text with
    | [] => .error (flawOn .endInValue [])
    | c :: rest =>
      if c = '\x7b' then readKeyed rest
      else if c = '"' then do
        let name := readTree text
        let method ← readName name.tree
        pure (method, ← name.follow text)
      else .error (flawOn .expectedValue (c :: rest))
  readEnd rest
  return method

def decode (text : String) : Except Refusal Method :=
  (readText text.toList).mapError (Refusal.ofFault text.toList)

end Method

end Fleet.Folders
