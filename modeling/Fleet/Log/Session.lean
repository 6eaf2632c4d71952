import Fleet.Log.Fault
import Fleet.Log.Record

/-!
# Logging sessions

A session is the state of a process as far as its output goes: what it has written to its standard
streams, the files, and the logger if one is installed. Its clock stands still: every record bears
the same time. Installing checks the filter, the format, the output and the log file in this order;
a second logger is refused, but its log file has been opened by then. A disabled configuration
installs nothing and checks nothing.
-/
namespace Fleet.Log

inductive Sink where
  | stdout
  | stderr
  | file (place : List RawText)
  deriving DecidableEq

structure Logger where
  filter : Filter
  format : Format
  color : Bool
  sink : Sink

structure Session where
  clock : String
  files : Files
  logger : Option Logger
  stdout : String
  stderr : String

/-- Opens a log file, and makes the directories above it. Directories that were made stay when the
file cannot be opened. -/
def openLogFile (files : Files) (path : Option Path) :
    Files × Except LoggingFault (List RawText) :=
  match path with
  | none => (files, .error .noFile)
  | some path =>
    match files.makeParents path with
    | .error reason => (files, .error (.directory reason))
    | .ok made =>
      match made.openForAppend path with
      | .error reason => (made, .error (.file path reason))
      | .ok (opened, place) => (opened, .ok place)

def openSink (files : Files) (config : Config) : Output → Files × Except LoggingFault Sink
  | .stdout => (files, .ok .stdout)
  | .stderr => (files, .ok .stderr)
  | .file =>
    let (files, place) := openLogFile files config.file
    (files, place.map .file)

/-- The checks that come before any file is opened. -/
def checkChoices (grammar : Grammar) (config : Config) :
    Except LoggingFault (Filter × Format × Output) :=
  match Filter.ofConfig grammar config with
  | .error reason => .error (.filter reason)
  | .ok filter =>
    match Format.ofName? config.format with
    | none => .error (.choice (.format config.format))
    | some format =>
      match Output.ofName? config.output with
      | none => .error (.choice (.output config.output))
      | some output => .ok (filter, format, output)

namespace Session

/-- A process that has written nothing yet. -/
def start (clock : String) (files : Files) : Session := ⟨clock, files, none, "", ""⟩

def install (session : Session) (grammar : Grammar) (config : Config) :
    Session × Except LoggingFault Unit :=
  if !config.enabled then (session, .ok ())
  else
    match checkChoices grammar config with
    | .error fault => (session, .error fault)
    | .ok (filter, format, output) =>
      let (files, sink) := openSink session.files config output
      let session := { session with files }
      match sink with
      | .error fault => (session, .error fault)
      | .ok sink =>
        match session.logger with
        | some _ => (session, .error .installed)
        | none =>
          let color := config.color && output != .file
          ({ session with logger := some ⟨filter, format, color, sink⟩ }, .ok ())

/-- Sets up logging as asked. Who asks for nothing in particular gets the standard configuration. -/
def setUp (session : Session) (grammar : Grammar) (asked : Option Config) :
    Session × Except LoggingFault Unit :=
  session.install grammar (asked.getD .standard)

def write (session : Session) (text : String) : Session :=
  { session with stdout := session.stdout ++ text }

def writeError (session : Session) (text : String) : Session :=
  { session with stderr := session.stderr ++ text }

def writeTo (session : Session) (sink : Sink) (text : String) : Session :=
  match sink with
  | .stdout => session.write text
  | .stderr => session.writeError text
  | .file place => { session with files := session.files.append place text.toUTF8.toList }

def line (logger : Logger) (clock : String) (record : Record) : String :=
  match logger.format with
  | .text => record.textLine logger.color clock
  | .json => record.jsonLine clock

/-- Writes a record, if there is a logger and its filter lets the record through. -/
def note (session : Session) (record : Record) : Session :=
  match session.logger with
  | none => session
  | some logger =>
    if logger.filter.enables record.target record.fieldNames record.level then
      session.writeTo logger.sink (line logger session.clock record)
    else session

def noteAll (session : Session) (records : List Record) : Session := records.foldl note session

end Session

end Fleet.Log
