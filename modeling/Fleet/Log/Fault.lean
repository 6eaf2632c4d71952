import Fleet.Files
import Fleet.Log.Overrides

/-!
# Logging faults

Why logging cannot be set up: a filter or a name that is not known, or a log file that is not named
or cannot be opened. A second logger is a fault as well.
-/
namespace Fleet

inductive LoggingFault where
  | filter (reason : Log.Filter.Fault)
  | choice (reason : Log.ChoiceFault)
  | noFile
  | directory (reason : FileFault)
  | file (path : Path) (reason : FileFault)
  | installed
  deriving DecidableEq

namespace LoggingFault

def hexDigit (n : Nat) : Char := (Nat.digitChar n).toUpper

/-- A path between double quotes, where single quotes are escaped as well and a byte that belongs to
no character is written by its number. -/
def quotedPath (path : Path) : String :=
  let quote : Text.Piece → List Char
    | .char c => if c = '\'' then ['\\', '\''] else Text.quoteChar c
    | .broken bytes => bytes.flatMap fun byte =>
        ['\\', 'x', hexDigit (byte.toNat / 16), hexDigit (byte.toNat % 16)]
  String.ofList ('"' :: (Text.pieces path.bytes).flatMap quote ++ ['"'])

def message : LoggingFault → String
  | filter reason => reason.message
  | choice reason => reason.message
  | noFile => "Log output is 'file' but no log file is set"
  | directory reason => s!"Failed to create log directory: {reason.message}"
  | file path reason => s!"Failed to open log file {quotedPath path}: {reason.message}"
  | installed =>
    "Failed to install subscriber: a global default trace dispatcher has already been set"

end LoggingFault

end Fleet
