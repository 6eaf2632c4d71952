import Fleet.Files
import Fleet.Json.Reader
import Fleet.Settings.Order
import Fleet.Settings.Reading
import Fleet.Toml.Reader
import Fleet.Toml.Report

/-!
# File formats of settings

A settings file is written in one of the registered formats, which are told apart by the ending of
its name. TOML and JSON are read here; how the further formats are read is left open, but whatever
they read has each key once. The registered formats are a hash map as well, so that it may be any of
them that is tried first.
-/
namespace Fleet

inductive SettingsFault where
  | noFile (path : Path)
  | notFound (path : Path)
  | unknownFormat (path : Path)
  | notToml (source : String)
  | notJson (source : String) (reason : Json.Refusal)
  | notTable (source : String) (found : String)
  | unread (source : String) (cause : String)
  | misfit (reason : Settings.Misfit)

def SettingsFault.message : SettingsFault → String
  | noFile path => s!"Settings file not found: {path}"
  | notFound path => s!"configuration file \"{path}\" not found"
  | unknownFormat path => s!"configuration file \"{path}\" is not of a registered file format"
  | notToml source => s!"{Toml.reportHead} in {source}"
  | notJson source reason => s!"{reason.message} in {source}"
  | notTable source found => s!"invalid type: {found}, expected a map in {source} in {source}"
  | unread source cause => s!"{cause} in {source}"
  | misfit reason => reason.message

namespace Settings

mutual
def ofToml (origin : String) : Toml.Item → Value
  | .scalar value => .scalar value (some origin)
  | .moment text => .scalar (.string text) (some origin)
  | .array items => .array (ofTomlItems origin items) (some origin)
  | .table _ members => .table (ofTomlMembers origin [] members)
  | .tables elements => .array (ofTomlItems origin elements) (some origin)

def ofTomlItems (origin : String) : List (Toml.Span × Toml.Item) → List Value
  | [] => []
  | (_, item) :: rest => ofToml origin item :: ofTomlItems origin rest

def ofTomlMembers (origin : String) (before : Members) :
    List (Toml.Key × Toml.Span × Toml.Item) → Members
  | [] => before
  | (key, _, item) :: rest =>
    ofTomlMembers origin (Entries.put key.name (ofToml origin item) before) rest
end

/-- Integers beyond 63 bits become doubles. -/
def jsonNumber : Number → Number
  | .whole n =>
    if n < Number.signedEnd then .whole n
    else match Double.nearest? false n.toNat 0 with
      | some x => .real x
      | none => .whole n
  | number => number

mutual
def ofJson (origin : String) : Json → Value
  | .null => .scalar .null (some origin)
  | .bool b => .scalar (.bool b) (some origin)
  | .number n => .scalar (.number (jsonNumber n)) (some origin)
  | .string s => .scalar (.string s) (some origin)
  | .array items => .array (ofJsonItems origin items) (some origin)
  | .object members => .table (ofJsonMembers origin members)

def ofJsonItems (origin : String) : List Json → List Value
  | [] => []
  | item :: rest => ofJson origin item :: ofJsonItems origin rest

def ofJsonMembers (origin : String) : List (String × Json) → Members
  | [] => []
  | (key, value) :: rest => (key, ofJson origin value) :: ofJsonMembers origin rest
end

/-- The words for a root that is no table. -/
def rootText : Value → String
  | .scalar .null _ => "unit value"
  | .scalar (.bool b) _ => s!"boolean `{b}`"
  | .scalar (.number (.whole n)) _ => s!"64-bit integer `{n}`"
  | .scalar (.number (.real x)) _ => s!"floating point `{Value.numberText (.real x)}`"
  | .scalar (.special s) _ => s!"floating point `{s}`"
  | .scalar (.string s) _ => s!"string {Text.quoted s}"
  | .array .. => "sequence"
  | .table _ => "map"

namespace Value

mutual
/-- Every table is written anew, so that its keys ascend and each of them is there once. -/
def sorted : Value → Value
  | scalar value origin => scalar value origin
  | array items origin => array (sortedItems items) origin
  | table members => table (sortedMembers [] members)

def sortedItems : List Value → List Value
  | [] => []
  | item :: rest => item.sorted :: sortedItems rest

def sortedMembers (before : Members) : List (String × Value) → Members
  | [] => before
  | (key, value) :: rest => sortedMembers (Entries.put key value.sorted before) rest
end

end Value

/-- `parse` reads the text of a source. -/
structure Format where
  name : String
  endings : List String
  parse : String → String → Except SettingsFault Members

namespace Format

def parseToml (source text : String) : Except SettingsFault Members :=
  match Toml.read? text with
  | some members => .ok (ofTomlMembers source [] members)
  | none => .error (.notToml source)

def parseJson (source text : String) : Except SettingsFault Members :=
  match Json.read text with
  | .error reason => .error (.notJson source reason)
  | .ok value =>
    match ofJson source value with
    | .table members => .ok members
    | other => .error (.notTable source (rootText other))

def toml : Format := ⟨"toml", ["toml"], parseToml⟩

def json : Format := ⟨"json", ["json"], parseJson⟩

end Format

/-- A format that is not read here: its name, its endings, and what becomes of a text. -/
structure FurtherFormat where
  name : String
  endings : List String
  read : String → String → Except String Members

def FurtherFormat.format (further : FurtherFormat) : Format where
  name := further.name
  endings := further.endings
  parse source text :=
    match further.read source text with
    | .ok members => .ok (Value.sortedMembers [] members)
    | .error cause => .error (.unread source cause)

/-- The registered formats beside TOML and JSON, and the ranks of the names of all of them. -/
structure Formats where
  further : List FurtherFormat
  rank : String → Nat

namespace Formats

def plain : Formats := ⟨[], fun _ => 0⟩

/-- All formats in the order in which they are tried. -/
def all (formats : Formats) : List Format :=
  (Entries.arrange formats.rank
    ((.toml :: .json :: formats.further.map FurtherFormat.format).map fun format =>
      (format.name, format))).map Prod.snd

end Formats

end Settings

end Fleet
