import Fleet.Command.Basic
import Fleet.Command.Level

/-!
# Arguments of a run

The options of the run come first, then the name of the command, then the options of that command.
A flaw of the command's arguments is reported before one that is only noticed when the options of
the run are settled. Paths must not be empty. `help` in place of a command may be followed by one
command.
-/
namespace Fleet

namespace Command

def pathValue (path : RawText) : Except UsageFault RawText :=
  if path.isEmpty then .error .badValue else .ok path

def formatValue (value : RawText) : Except UsageFault OutputFormat := do
  match OutputFormat.ofName? (← textValue value) with
  | some format => .ok format
  | none => .error .badValue

structure Draft where
  manifest : Option RawText := none
  format : Option OutputFormat := none
  category : Option String := none
  variableName : Option String := none
  deriving DecidableEq

def manifestChoice : Choice Draft where
  name := "manifest"
  isSet draft := draft.manifest.isSome
  set value draft := (pathValue value).map fun v => { draft with manifest := some v }

def formatChoice : Choice Draft where
  name := "format"
  isSet draft := draft.format.isSome
  set value draft := (formatValue value).map fun v => { draft with format := some v }

def variableChoice : Choice Draft where
  name := "env-var"
  isSet draft := draft.variableName.isSome
  set value draft := (textValue value).map fun v => { draft with variableName := some v }

def categoryChoice : Choice Draft where
  name := "category"
  isSet draft := draft.category.isSome
  set value draft := (textValue value).map fun v => { draft with category := some v }

def Name.choices : Name → List (Choice Draft)
  | machines => [manifestChoice, formatChoice]
  | folders => [variableChoice, formatChoice]
  | plan => [manifestChoice]
  | settings => []

/-- Only `folders` takes a word, the category. -/
def Name.level (name : Name) : Level Draft where
  flags := []
  choices := name.choices
  word := if name = .folders then some categoryChoice else none

def Draft.manifestPath (draft : Draft) : RawText := draft.manifest.getD standardManifest

def Draft.outputFormat (draft : Draft) : OutputFormat := draft.format.getD .text

def Draft.finish (draft : Draft) : Name → Except UsageFault Command
  | .machines => .ok (.machines draft.manifestPath draft.outputFormat)
  | .folders =>
    match draft.category with
    | none => .error .noCategory
    | some category => .ok (.folders category draft.variableName draft.outputFormat)
  | .plan => .ok (.plan draft.manifestPath)
  | .settings => .ok .settings

def Name.read (name : Name) (arguments : List RawText) : Except UsageFault Command := do
  (← name.level.read {} arguments).finish name

/-- The command that a word names. -/
def Name.ofRaw? (word : RawText) : Option Name := word.text?.bind Name.ofText?

/-- What becomes of a request for help that is followed by words. -/
def helpFault : List RawText → UsageFault
  | [] => .help
  | [word] => if word = "help" ∨ (Name.ofRaw? word).isSome then .help else .unknownCommand
  | _ => .unknownCommand

end Command

namespace Invocation
open Command

structure Draft where
  workspace : Option RawText := none
  settings : Option RawText := none
  document : Option RawText := none
  verbose : Bool := false
  quiet : Bool := false
  logLevel : Option String := none
  logFormat : Option String := none
  logOutput : Option String := none
  logFile : Option RawText := none
  deriving DecidableEq

/-- The options of the run itself. No word is one of them. -/
def level : Level Draft where
  flags := [
    ⟨"verbose", (·.verbose), fun d => { d with verbose := true }⟩,
    ⟨"quiet", (·.quiet), fun d => { d with quiet := true }⟩]
  choices := [
    ⟨"workspace", (·.workspace.isSome),
      fun s d => (pathValue s).map fun v => { d with workspace := some v }⟩,
    ⟨"settings", (·.settings.isSome),
      fun s d => (pathValue s).map fun v => { d with settings := some v }⟩,
    ⟨"document", (·.document.isSome),
      fun s d => (pathValue s).map fun v => { d with document := some v }⟩,
    ⟨"log-level", (·.logLevel.isSome),
      fun s d => (textValue s).map fun v => { d with logLevel := some v }⟩,
    ⟨"log-format", (·.logFormat.isSome),
      fun s d => (textValue s).map fun v => { d with logFormat := some v }⟩,
    ⟨"log-output", (·.logOutput.isSome),
      fun s d => (textValue s).map fun v => { d with logOutput := some v }⟩,
    ⟨"log-file", (·.logFile.isSome),
      fun s d => (pathValue s).map fun v => { d with logFile := some v }⟩]
  word := none

/-- Reads the command whose name is the word at hand. -/
def readCommand (word : RawText) (rest : List RawText) : Except UsageFault Command :=
  if word = "help" then .error (helpFault rest)
  else
    match Name.ofRaw? word with
    | some name => name.read rest
    | none => .error .unknownCommand

def readFrom (progress : Progress Draft) :
    List RawText → Except UsageFault (Draft × Option Command)
  | [] => progress.settle.map fun draft => (draft, none)
  | argument :: rest =>
    match Form.ofArgument argument with
    | .ending =>
      match rest with
      | [] => progress.settle.map fun draft => (draft, none)
      | word :: _ =>
        .error (if word = "help" ∨ (Name.ofRaw? word).isSome then .unknownArgument
          else .unknownCommand)
    | .long name value => do readFrom (← level.readLong progress name value) rest
    | .short letters => do readFrom (← Level.readShort progress letters) rest
    | .word =>
      match progress.hand? argument with
      | some progress => readFrom progress rest
      | none => do
        let command ← readCommand argument rest
        return (← progress.settle, some command)

def Draft.finish (draft : Draft) (command : Option Command) : Except UsageFault Invocation :=
  match command with
  | none => .error (if draft = {} then .noArguments else .noCommand)
  | some command =>
    if draft.verbose && draft.quiet then .error .conflict
    else
      .ok {
        command
        workspace := draft.workspace.getD standardWorkspace
        settings := draft.settings
        document := draft.document
        verbose := draft.verbose
        quiet := draft.quiet
        logLevel := draft.logLevel
        logFormat := draft.logFormat
        logOutput := draft.logOutput
        logFile := draft.logFile }

def read (arguments : List RawText) : Except UsageFault Invocation := do
  let (draft, command) ← readFrom ⟨{}, none⟩ arguments
  draft.finish command

end Invocation

end Fleet
