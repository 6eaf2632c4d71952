import Fleet.Command.Basic
import Fleet.Fault
import Fleet.Folders.Codec
import Fleet.Folders.Table
import Fleet.Guest.Codec
import Fleet.Json.Printer
import Fleet.Machine.Table
import Fleet.Settings.Load
import Fleet.Store.Load

/-!
# Runs

A run loads the settings and then the configuration document that they or the invocation name. What
is loaded is a context, in which the command is carried out; it answers with a text. The first stage
that fails ends the run.
-/
namespace Fleet

/-- What a command works with. -/
structure Context where
  workspace : Path
  settings : Settings
  store : Store

namespace Invocation

/-- The settings of a run, before the invocation has its say. -/
def loadSettings (host : Host) (env : Environment) (invocation : Invocation) :
    Except SettingsFault Settings :=
  match invocation.settings with
  | some path => Settings.loadFile host path env
  | none => Settings.load host invocation.workspace env

/-- The settings with the document that the invocation names. -/
def overrideDocument (invocation : Invocation) (settings : Settings) : Settings :=
  { settings with document := invocation.document.getD settings.document }

def loadStore (files : Files) (env : Environment) (invocation : Invocation) (settings : Settings) :
    Except DocumentFault Store :=
  Store.load files (settings.documentPath invocation.workspace) settings.boxes env

def load (host : Host) (env : Environment) (invocation : Invocation) :
    Except RunFault Context := do
  let settings ← (invocation.loadSettings host env).mapError .settings
  let settings := invocation.overrideDocument settings
  let store ← (invocation.loadStore host.files env settings).mapError .document
  return ⟨invocation.workspace, settings, store⟩

end Invocation

namespace Context

def loadManifest (context : Context) (files : Files) (path : Path) :
    Except ManifestFault Manifest :=
  Manifest.load files (Path.join context.workspace path)

def machinesText (machines : List Machine.Descriptor) : OutputFormat → String
  | .text => Machine.listing machines
  | .json => (Json.array (machines.map Machine.Descriptor.toJson)).pretty

def foldersText (category : String) (folders : FolderMap) : OutputFormat → String
  | .text => Folders.listing category folders
  | .json => (Folders.mapJson folders).pretty

def machines (context : Context) (files : Files) (path : Path) :
    Except RunFault (List Machine.Descriptor) :=
  match context.loadManifest files path with
  | .error reason => .error (.manifest reason)
  | .ok manifest => .ok (Machine.resolveAll context.store manifest.machines)

def folders (context : Context) (category : String) (variableName : Option String) :
    Except RunFault FolderMap :=
  (context.store.folders category
    (variableName.getD (Folders.defaultVariable category))).mapError (.document ∘ .mount)

def plan (context : Context) (files : Files) (path : Path) :
    Except RunFault (List Guest.Definition) := do
  let machines ← context.machines files path
  (Guest.plan context.store machines).mapError (.document ∘ .mount)

def execute (context : Context) (files : Files) : Command → Except RunFault String
  | .machines path format =>
    (context.machines files path).map fun machines => machinesText machines format
  | .folders category variableName format =>
    (context.folders category variableName).map fun folders => foldersText category folders format
  | .plan path => (context.plan files path).map fun plan => (Guest.planJson plan).pretty
  | .settings => (context.settings.toJson.map Json.pretty).mapError .serialization

end Context

/-- The text that a run answers with, if nothing is logged. -/
def Invocation.output (host : Host) (env : Environment) (invocation : Invocation) :
    Except RunFault String := do
  let context ← invocation.load host env
  context.execute host.files invocation.command

end Fleet
