import Fleet.Text.Bytes
import Fleet.Toml.Basic

/-!
# Reports of TOML faults

A fault is reported with its line and column, the line itself, and carets under the span, then the
message. Columns count characters, carets count bytes, and there is always one caret.
-/
namespace Fleet.Toml

def reportHead : String := "TOML parse error"

/-- The line that follows the last line break before a place, and how much of it is before. -/
def lineAt (text : List Char) (place : List Char) : List Char × List Char :=
  let before := text.take (text.length - place.length)
  let left := (before.reverse.takeWhile (· != '\n')).reverse
  (left, left ++ place.takeWhile (· != '\n'))

def report (text : List Char) (fault : Fault Span) : String :=
  let message := fault.cause.message .plain
  match fault.place with
  | none => message ++ "\n"
  | some span =>
    let before := text.take (text.length - span.start.length)
    let lineNumber := toString (before.count '\n' + 1)
    let (left, line) := lineAt text span.start
    let spanBytes := Text.byteLength (span.start.take (span.start.length - span.stop.length))
    let carets := List.replicate (max 1 (min spanBytes (Text.byteLength line))) '^'
    let margin := List.replicate (lineNumber.length + 1) ' '
    let indent := List.replicate (left.length + 1) ' '
    s!"{reportHead} at line {lineNumber}, column {left.length + 1}\n" ++ String.ofList (
      margin ++ '|' :: '\n' :: lineNumber.toList ++ ' ' :: '|' :: ' ' :: line ++ '\n' ::
      margin ++ '|' :: indent ++ carets ++ ['\n']) ++ message ++ "\n"

end Fleet.Toml
