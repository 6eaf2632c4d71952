import Fleet.Command.Journal
import Fleet.Log.Session

/-!
# Launches

A launch is an invocation together with its surroundings; it is a run that logs. Its logging
configuration comes from the settings, which count as the standard ones if they cannot be loaded,
from the environment and from the options of the invocation, each over the one before. Every stage
answers from the files as they stand when it begins; a log file is one of them. The answer is
written only when all has gone well, and the exit code tells whether it has. The settings are loaded
once for logging and once for the run, and either time tables may be gone through in another order.
-/
namespace Fleet
open Log

namespace Invocation

/-- What the options of the invocation say about logging. -/
def overrideLogging (invocation : Invocation) (config : Log.Config) : Log.Config where
  enabled := config.enabled && !invocation.quiet
  level := invocation.logLevel.getD (if invocation.verbose then "debug" else config.level)
  format := invocation.logFormat.getD config.format
  output := invocation.logOutput.getD config.output
  file := invocation.logFile.or config.file
  color := config.color
  modules := config.modules

def logging (grammar : Grammar) (host : Host) (env : Environment) (invocation : Invocation) :
    Except ChoiceFault Log.Config :=
  let config :=
    match invocation.loadSettings host env with
    | .ok settings => settings.logging
    | .error _ => .standard
  match config.applyOverrides grammar env with
  | (_, some fault) => .error fault
  | (config, none) => .ok (invocation.overrideLogging config)

end Invocation

structure Launch where
  home : Path
  env : Environment
  invocation : Invocation
  grammar : Grammar := .plain
  formats : Settings.Formats := .plain
  early : Settings.Order := .plain
  order : Settings.Order := .plain

namespace Launch

def hostWith (launch : Launch) (order : Settings.Order) (session : Session) : Host :=
  ⟨session.files, launch.home, launch.formats, order⟩

/-- What the settings of the run are loaded from. -/
def host (launch : Launch) (session : Session) : Host := launch.hostWith launch.order session

/-- What the settings are loaded from for the sake of logging. -/
def earlyHost (launch : Launch) (session : Session) : Host := launch.hostWith launch.early session

def loadSettings (launch : Launch) (session : Session) : Session × Except SettingsFault Settings :=
  if launch.invocation.settings.isSome then
    (session, launch.invocation.loadSettings (launch.host session) launch.env)
  else
    let session := session.note (Journal.settingsFile (launch.host session) launch.env)
    match launch.invocation.loadSettings (launch.host session) launch.env with
    | .error fault => (session, .error fault)
    | .ok settings => (session.note (Journal.settings settings), .ok settings)

def loadStore (launch : Launch) (session : Session) (settings : Settings) :
    Session × Except DocumentFault Store :=
  let path := settings.documentPath launch.invocation.workspace
  let loaded := launch.invocation.loadStore session.files launch.env settings
  let session := session.noteAll (Journal.store session.files path loaded)
  match loaded with
  | .error fault => (session, .error fault)
  | .ok store => (session.note (Journal.ready path), .ok store)

def load (launch : Launch) (session : Session) : Session × Except RunFault Context :=
  match launch.loadSettings session with
  | (session, .error fault) => (session, .error (.settings fault))
  | (session, .ok settings) =>
    let settings := launch.invocation.overrideDocument settings
    match launch.loadStore session settings with
    | (session, .error fault) => (session, .error (.document fault))
    | (session, .ok store) => (session, .ok ⟨launch.invocation.workspace, settings, store⟩)

def execute (context : Context) (command : Command) (session : Session) :
    Session × Except RunFault String :=
  let session := session.note (Journal.executing command)
  (session.noteAll (Journal.execution context session.files command),
    context.execute session.files command)

/-- A text, ended by a line break unless it has one. -/
def lines (text : String) : String :=
  if text.toList.getLast? = some '\n' then text else text ++ "\n"

/-- What is left once logging is set up, with the exit code. -/
def run (launch : Launch) (session : Session) : Session × Nat :=
  match launch.load (session.note Journal.starting) with
  | (session, .error fault) =>
    ((session.note (Journal.loadFailed fault)).writeError (fault.line ++ "\n"), 1)
  | (session, .ok context) =>
    match execute context launch.invocation.command session with
    | (session, .error fault) =>
      ((session.note (Journal.executionFailed fault)).writeError (fault.line ++ "\n"), 1)
    | (session, .ok text) => ((session.note Journal.completed).write (lines text), 0)

def refuse (session : Session) (fault : LoggingFault) : Session × Nat :=
  (session.writeError s!"Failed to initialize logging: {(RunFault.logging fault).message}\n", 1)

/-- The whole of a launch. -/
def start (launch : Launch) (clock : String) (files : Files) : Session × Nat :=
  let session := Session.start clock files
  match launch.invocation.logging launch.grammar (launch.earlyHost session) launch.env with
  | .error fault => refuse session (.choice fault)
  | .ok config =>
    match session.install launch.grammar config with
    | (session, .error fault) => refuse session fault
    | (session, .ok _) => launch.run session

end Launch

end Fleet
