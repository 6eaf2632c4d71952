import Fleet.Document
import Fleet.Files
import Fleet.Folders.Mount

/-!
# Loading configuration documents

A file that is not there counts as the empty document. Every other failure to read it, and any
flaw of its text, is a fault; so is a malformed folder variable later on.
-/
namespace Fleet

inductive DocumentFault where
  | unreadable (path : Path) (reason : FileFault)
  | malformed (path : Path) (reason : Json.Refusal)
  | mount (reason : Folders.MalformedMount)
  deriving DecidableEq

def DocumentFault.message : DocumentFault → String
  | unreadable path reason => s!"Failed to read configuration file {path}: {reason.message}"
  | malformed path reason => s!"Malformed configuration file {path}: {reason.message}"
  | mount reason => reason.message

namespace Document

/-- Whether loading finds a file at the path. -/
def isMissing (files : Files) (path : Path) : Bool :=
  match files.readText path with
  | .error .notFound => true
  | _ => false

def load (files : Files) (path : Path) : Except DocumentFault Document :=
  match files.readText path with
  | .error .notFound => .ok empty
  | .error reason => .error (.unreadable path reason)
  | .ok text => (parse text).mapError (.malformed path)

end Document

end Fleet
