import Fleet.Text.Raw

/-!
# Commands and invocations

A run carries out one of four commands. An invocation is a command together with the options of the
run, just as they were asked for: an option that was left out is `none` unless it has a default.
Paths are raw texts.
-/
namespace Fleet

inductive OutputFormat where
  | text
  | json
  deriving DecidableEq, Repr

namespace OutputFormat

def name : OutputFormat → String
  | text => "text"
  | json => "json"

def ofName? (name : String) : Option OutputFormat :=
  if name = text.name then some text else if name = json.name then some json else none

end OutputFormat

inductive Command where
  | machines (manifest : RawText) (format : OutputFormat)
  | folders (category : String) (variableName : Option String) (format : OutputFormat)
  | plan (manifest : RawText)
  | settings
  deriving DecidableEq, Repr

namespace Command

inductive Name where
  | machines
  | folders
  | plan
  | settings
  deriving DecidableEq, Repr

def Name.all : List Name := [.machines, .folders, .plan, .settings]

def Name.text : Name → String
  | machines => "machines"
  | folders => "folders"
  | plan => "plan"
  | settings => "settings"

def Name.ofText? (text : String) : Option Name := all.find? fun name => name.text == text

def name : Command → Name
  | machines .. => .machines
  | folders .. => .folders
  | plan _ => .plan
  | settings => .settings

/-- The path of the manifest, for a command that works from one. -/
def manifest? : Command → Option RawText
  | machines manifest _ | plan manifest => some manifest
  | folders .. | settings => none

def standardManifest : RawText := "machines.toml"

end Command

structure Invocation where
  command : Command
  workspace : RawText
  settings : Option RawText
  document : Option RawText
  verbose : Bool
  quiet : Bool
  logLevel : Option String
  logFormat : Option String
  logOutput : Option String
  logFile : Option RawText
  deriving DecidableEq, Repr

def Invocation.standardWorkspace : RawText := "."

end Fleet
