import Fleet.Settings.Basic
import Fleet.Settings.Value

/-!
# Reading settings from layered values

Layered values are read leniently: a text may be given as a number or a truth value, and a truth
value as a number or as one of a few words. A value that cannot be read so is reported with its
key and its origin; a record of the wrong shape is reported alone. Records may be given as arrays
of their fields in order, and what no field asks for is passed over. Tables are read in the order in
which they are gone through: of several members that cannot be read the first one is reported, and
only a table without such members can lack a field.
-/
namespace Fleet.Settings

/-- A value that a field cannot take; `key` is where it is, if that is reported. -/
inductive Misfit where
  | value (found : Found) (wanted : String) (key : String) (origin : Option String)
  | shape (cause : Cause)
  deriving DecidableEq

def Misfit.message : Misfit → String
  | value found wanted key origin =>
    let keyText := if key = "" then "" else s!" for key `{key}`"
    let originText := match origin with
      | some origin => s!" in {origin}"
      | none => ""
    (Cause.wrongType found wanted).message .plain ++ keyText ++ originText
  | shape cause => cause.message .plain

/-- Puts a step in front of the key of a misfit. -/
def Misfit.below (step : String) : Misfit → Misfit
  | value found wanted key origin =>
    let joint := if key.toList.head?.all (· == '[') then "" else "."
    value found wanted (step ++ joint ++ key) origin
  | shape cause => shape cause

namespace Value

def found : Value → Found
  | scalar value _ => .scalar value
  | array .. => .sequence
  | table _ => .map

def origin : Value → Option String
  | scalar _ origin => origin
  | array _ origin => origin
  | table _ => none

def misfit (value : Value) (wanted : String) : Misfit := .value value.found wanted "" value.origin

def misshapen (value : Value) (wanted : String) : Misfit :=
  .shape (.wrongType value.found wanted)

/-- The text of a number without a needless point. -/
def numberText : Number → String
  | .whole n => toString n
  | .real x => String.ofList ((Decimal.Layout.positionalOnly false).write x)

def text (value : Value) : Except Misfit String :=
  match value with
  | scalar (.string s) _ => .ok s
  | scalar (.bool b) _ => .ok (if b then "true" else "false")
  | scalar (.number n) _ => .ok (numberText n)
  | scalar (.special s) _ => .ok s
  | _ => .error (value.misfit "a string")

def trueWords : List String := ["1", "true", "on", "yes"]

def falseWords : List String := ["0", "false", "off", "no"]

def flag (value : Value) : Except Misfit Bool :=
  match value with
  | scalar (.bool b) _ => .ok b
  | scalar (.number (.whole n)) _ => .ok (n != 0)
  | scalar (.number (.real x)) _ => .ok (!x.isZero)
  | scalar (.special _) _ => .ok true
  | scalar (.string s) origin =>
    let word := Text.lower s
    if word ∈ trueWords then .ok true
    else if word ∈ falseWords then .ok false
    else .error (.value (.scalar (.string word)) "a boolean" "" origin)
  | _ => .error (value.misfit "a boolean")

def path (value : Value) : Except Misfit Path := value.text.map .ofText

def optionalPath (value : Value) : Except Misfit (Option Path) :=
  match value with
  | scalar .null _ => .ok none
  | _ => value.path.map some

/-- The texts of a table, by key. -/
def texts : Members → Except Misfit (List (String × String))
  | [] => .ok []
  | (key, value) :: rest => do
    let first ← value.text.mapError (Misfit.below key)
    return (key, first) :: (← texts rest)

/-- A table of texts. The map that is made of it is gone through by these ranks. -/
def textMap (rank : String → Nat) : Value → Except Misfit (HashMap String)
  | table members => (texts members).map fun pairs => .ofKeyMap rank (.ofList pairs)
  | value => .error (value.misshapen "a map")

/-- A field of a record: its name in a table, its place in an array. -/
structure FieldPlace where
  name : String
  index : Nat

/-- The value of a field, if the record has it, and the step to it. -/
def fieldValue? (record : Value) (place : FieldPlace) : Option (String × Value) :=
  match record with
  | table members => (Entries.get? place.name members).map fun value => (place.name, value)
  | array items _ => items[place.index]?.map fun value => (s!"[{place.index}]", value)
  | scalar .. => none

def readField {α : Type} (read : Value → Except Misfit α) (record : Value) (place : FieldPlace) :
    Except Misfit (Option α) :=
  match record.fieldValue? place with
  | none => .ok none
  | some (step, value) => ((read value).mapError (Misfit.below step)).map some

/-- What it takes for a value to be read, without what it is read as. -/
def asks {α : Type} (read : Value → Except Misfit α) (value : Value) : Except Misfit Unit :=
  (read value).map fun _ => ()

/-- Tries to read the members of a table one after another, each as the field of its name. -/
def tryMembers (fields : List (String × (Value → Except Misfit Unit))) :
    List (String × Value) → Except Misfit Unit
  | [] => .ok ()
  | (key, value) :: rest =>
    match fields.find? fun field => field.1 == key with
    | none => tryMembers fields rest
    | some field => do
      (field.2 value).mapError (Misfit.below key)
      tryMembers fields rest

/-- Tries the fields of a record. Those of an array are read in their own order anyway. -/
def tryFields (fields : List (String × (Value → Except Misfit Unit))) (record : Value) :
    Except Misfit Unit :=
  match record with
  | table members => tryMembers fields members
  | _ => .ok ()

/-- The fault of a record that lacks a field. -/
def lacking (record : Value) (name wanted : String) (count : Nat) : Misfit :=
  match record with
  | array items _ =>
    .shape (.wrongLength items.length s!"struct {wanted} with {count} elements")
  | _ => .shape (.missing name)

def isRecord : Value → Bool
  | scalar .. => false
  | _ => true

def boxTrials : List (String × (Value → Except Misfit Unit)) :=
  [("linux", asks text), ("windows", asks text)]

def fallbackBoxes (value : Value) : Except Misfit Machine.FallbackBoxes := do
  if !value.isRecord then .error (value.misshapen "struct FallbackBoxes")
  else
    tryFields boxTrials value
    match ← readField text value ⟨"linux", 0⟩ with
    | none => .error (value.lacking "linux" "FallbackBoxes" 2)
    | some linux =>
      match ← readField text value ⟨"windows", 1⟩ with
      | none => .error (value.lacking "windows" "FallbackBoxes" 2)
      | some windows => return ⟨linux, windows⟩

def logTrials : List (String × (Value → Except Misfit Unit)) := [
  ("enabled", asks flag), ("level", asks text), ("format", asks text), ("output", asks text),
  ("file", asks optionalPath), ("color", asks flag), ("modules", asks (textMap fun _ => 0))]

def logging (rank : String → Nat) (value : Value) : Except Misfit Log.Config := do
  if !value.isRecord then .error (value.misshapen "struct LoggingConfig")
  else
    let standard := Log.Config.standard
    tryFields logTrials value
    return {
      enabled := (← readField flag value ⟨"enabled", 0⟩).getD standard.enabled
      level := (← readField text value ⟨"level", 1⟩).getD standard.level
      format := (← readField text value ⟨"format", 2⟩).getD standard.format
      output := (← readField text value ⟨"output", 3⟩).getD standard.output
      file := (← readField optionalPath value ⟨"file", 4⟩).join
      color := (← readField flag value ⟨"color", 5⟩).getD standard.color
      modules := (← readField (textMap rank) value ⟨"modules", 6⟩).getD standard.modules }

def topTrials : List (String × (Value → Except Misfit Unit)) := [
  ("document", asks path), ("boxes", asks fallbackBoxes), ("logging", asks (logging fun _ => 0))]

/-- Settings from a value; the levels of modules are gone through by these ranks. -/
def settings (rank : String → Nat) (value : Value) : Except Misfit Settings := do
  tryFields topTrials value
  match ← readField path value ⟨"document", 0⟩ with
  | none => .error (value.lacking "document" "Settings" 3)
  | some document =>
    match ← readField fallbackBoxes value ⟨"boxes", 1⟩ with
    | none => .error (value.lacking "boxes" "Settings" 3)
    | some boxes =>
      let logging ← readField (logging rank) value ⟨"logging", 2⟩
      return ⟨document, boxes, logging.getD .standard⟩

end Value

end Fleet.Settings
