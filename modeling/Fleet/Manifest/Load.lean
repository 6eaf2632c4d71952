import Fleet.Files
import Fleet.Manifest
import Fleet.Toml.Reader
import Fleet.Toml.Report
import Fleet.Toml.Tree

/-!
# Loading manifests

A manifest is a TOML text with an array `machine`. It is read and then its names are checked. A
text that is not TOML is reported without saying where; every other fault of its shape is reported
in full. Only the check of names does not say which file it is about.
-/
namespace Fleet

inductive ManifestFault where
  | unreadable (path : Path) (reason : FileFault)
  | notToml (path : Option Path)
  | misshapen (path : Option Path) (report : String)
  | names (reason : Manifest.NameFault)
  | kind (reason : Machine.Kind.Unknown)
  deriving DecidableEq

def ManifestFault.message : ManifestFault → String
  | unreadable path reason => s!"Failed to read {path}: {reason.message}"
  | notToml path => located path Toml.reportHead
  | misshapen path report => located path report
  | names reason => reason.message
  | kind reason => reason.message
where
  located (path : Option Path) (text : String) : String :=
    match path with
    | some path => s!"{path}: {text}"
    | none => text

namespace Manifest

def readText (path : Option Path) (text : String) : Except ManifestFault Manifest :=
  match Toml.read? text with
  | none => .error (.notToml path)
  | some members =>
    match read members.tree with
    | .error fault => .error (.misshapen path (Toml.report text.toList fault))
    | .ok manifest =>
      match manifest.validate with
      | .error fault => .error (.names fault)
      | .ok _ => .ok manifest

def parse (text : String) : Except ManifestFault Manifest := readText none text

def load (files : Files) (path : Path) : Except ManifestFault Manifest :=
  match files.readText path with
  | .error reason => .error (.unreadable path reason)
  | .ok text => readText (some path) text

end Manifest

end Fleet
