import Fleet.Decimal.Shortest
import Fleet.Json.Basic
import Fleet.Text.Quoted

/-!
# Faults of a read

A fault is a cause and, if one is known, a place. The cause is a flaw of the text itself or a
value that does not have the wanted shape. One function words all causes; the two formats differ
only in the word for an empty value and in how they write a double, which a `Wording` says.
-/
namespace Fleet

/-- What can be wrong with the text of a JSON value. -/
inductive Flaw where
  | endInValue
  | endInList
  | endInObject
  | endInString
  | expectedColon
  | expectedListSeparator
  | expectedMemberSeparator
  | expectedWord
  | expectedValue
  | keyNotString
  | trailingComma
  | trailingText
  | malformedNumber
  | numberOutOfRange
  | controlCharacter
  | malformedEscape
  | loneSurrogate
  | unfinishedSurrogate
  | tooDeep
  deriving DecidableEq, Repr

def Flaw.message : Flaw → String
  | endInValue => "EOF while parsing a value"
  | endInList => "EOF while parsing a list"
  | endInObject => "EOF while parsing an object"
  | endInString => "EOF while parsing a string"
  | expectedColon => "expected `:`"
  | expectedListSeparator => "expected `,` or `]`"
  | expectedMemberSeparator => "expected `,` or `\x7d`"
  | expectedWord => "expected ident"
  | expectedValue => "expected value"
  | keyNotString => "key must be a string"
  | trailingComma => "trailing comma"
  | trailingText => "trailing characters"
  | malformedNumber => "invalid number"
  | numberOutOfRange => "number out of range"
  | controlCharacter => "control character (\\u0000-\\u001F) found while parsing a string"
  | malformedEscape => "invalid escape"
  | loneSurrogate => "lone leading surrogate in hex escape"
  | unfinishedSurrogate => "unexpected end of hex escape"
  | tooDeep => "recursion limit exceeded"

/-- A value without parts. `special` is a number that is not finite, by its text. -/
inductive Scalar where
  | null
  | bool (value : Bool)
  | number (value : Number)
  | special (text : String)
  | string (value : String)
  deriving DecidableEq, Repr

inductive Found where
  | scalar (value : Scalar)
  | sequence
  | map
  deriving DecidableEq, Repr

inductive Cause where
  | malformed (flaw : Flaw)
  | wrongType (found : Found) (wanted : String)
  | wrongValue (found : Found) (wanted : String)
  | wrongLength (length : Nat) (wanted : String)
  | unknownVariant (name : String) (known : List String)
  | missing (field : String)
  | repeated (field : String)
  | refused (reason : String)
  deriving DecidableEq, Repr

structure Wording where
  null : String
  double : Double → String

/-- Doubles are written in full, with a point. -/
def Wording.plain : Wording where
  null := "unit value"
  double x := String.ofList ((Decimal.Layout.positionalOnly true).write x)

/-- Doubles are written as the JSON text of the number. -/
def Wording.json : Wording where
  null := "null"
  double x := String.ofList (Decimal.Layout.scientific.write x)

namespace Cause

def scalarText (wording : Wording) : Scalar → String
  | .null => wording.null
  | .bool value => s!"boolean `{value}`"
  | .number (.whole value) => s!"integer `{value}`"
  | .number (.real value) => s!"floating point `{wording.double value}`"
  | .special text => s!"floating point `{text}`"
  | .string value => s!"string {Text.quoted value}"

def foundText (wording : Wording) : Found → String
  | .scalar value => scalarText wording value
  | .sequence => "sequence"
  | .map => "map"

def knownText : List String → String
  | [] => "there are no variants"
  | [a] => s!"expected `{a}`"
  | [a, b] => s!"expected `{a}` or `{b}`"
  | many => "expected one of " ++ ", ".intercalate (many.map fun name => s!"`{name}`")

def message (wording : Wording) : Cause → String
  | .malformed flaw => flaw.message
  | .wrongType found wanted => s!"invalid type: {foundText wording found}, expected {wanted}"
  | .wrongValue found wanted => s!"invalid value: {foundText wording found}, expected {wanted}"
  | .wrongLength length wanted => s!"invalid length {length}, expected {wanted}"
  | .unknownVariant name known => s!"unknown variant `{name}`, {knownText known}"
  | .missing field => s!"missing field `{field}`"
  | .repeated field => s!"duplicate field `{field}`"
  | .refused reason => reason

end Cause

structure Fault (P : Type) where
  cause : Cause
  place : Option P

/-- A fault without a place takes the one of what encloses it. -/
def Fault.settle {P : Type} (place : Option P) (fault : Fault P) : Fault P :=
  { fault with place := fault.place <|> place }

end Fleet
