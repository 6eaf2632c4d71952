import Fleet.Json.Basic
import Fleet.Text.Raw

/-!
# Raw texts in JSON

A raw text is written as a text, so one that is no text cannot be written.
-/
namespace Fleet

inductive SerializationFault where
  | notText
  deriving DecidableEq, Repr

def SerializationFault.message : SerializationFault → String
  | notText => "path contains invalid UTF-8 characters"

def RawText.toJson (raw : RawText) : Except SerializationFault Json :=
  match raw.text? with
  | some text => .ok (.string text)
  | none => .error .notText

end Fleet
