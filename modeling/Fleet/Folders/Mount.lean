import Fleet.KeyMap
import Fleet.Text.Blank

/-!
# Mount tokens

A mount token is `host:guest`, cut at its first colon; both sides are non-empty, so the host has
no colon and the guest may have some. A folder variable holds mount tokens between blanks. Its
value is read as a whole: one malformed token refuses all of it, and the first one is named.
-/
namespace Fleet

/-- Host directories with their guest directories, ascending by host. -/
abbrev FolderMap := KeyMap String

namespace Folders

structure Mount where
  host : String
  guest : String
  deriving DecidableEq, Repr

def Mount.pair (mount : Mount) : String × String := (mount.host, mount.guest)

def splitMount (token : List Char) : Option Mount :=
  match token.span (· != ':') with
  | (c :: host, _ :: d :: guest) => some ⟨String.ofList (c :: host), String.ofList (d :: guest)⟩
  | _ => none

structure MalformedMount where
  variableName : String
  token : String
  deriving DecidableEq, Repr

def MalformedMount.message (e : MalformedMount) : String :=
  s!"Malformed folder mount '{e.token}' in ${e.variableName}: expected <host>:<guest>"

def readMounts (variableName : String) : List (List Char) → Except MalformedMount (List Mount)
  | [] => .ok []
  | token :: rest =>
    match splitMount token with
    | none => .error ⟨variableName, String.ofList token⟩
    | some mount => (readMounts variableName rest).map (mount :: ·)

def parseMounts (variableName value : String) : Except MalformedMount (List Mount) :=
  readMounts variableName (Text.runs value.toList)

end Folders

end Fleet
