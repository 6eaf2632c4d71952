import Fleet.Environment
import Fleet.Log.Filter

/-!
# Checked logging choices

The format and the output of records are chosen by name. Three variables of the environment
override a logging configuration: a filter, which also drops the levels of single modules, a format
and an output. They are checked and applied in this order, and what was applied before a fault
stays.
-/
namespace Fleet.Log

inductive Format where
  | text
  | json
  deriving DecidableEq, Repr

inductive Output where
  | stdout
  | stderr
  | file
  deriving DecidableEq, Repr

def filterVariable : String := "MACHINE_CONFIG_LOG"

def formatVariable : String := "MACHINE_CONFIG_LOG_FORMAT"

def outputVariable : String := "MACHINE_CONFIG_LOG_OUTPUT"

inductive ChoiceFault where
  | filterOverride (reason : DirectiveFault)
  | format (name : String)
  | formatOverride (name : String)
  | output (name : String)
  deriving DecidableEq

def formatFault (name : String) : String :=
  s!"Invalid log format: {name} (must be 'json' or 'text')"

def ChoiceFault.message : ChoiceFault → String
  | filterOverride reason => s!"Invalid {filterVariable}: {reason.message}"
  | format name => formatFault name
  | formatOverride name => s!"{formatFault name} in {formatVariable}"
  | output name => s!"Invalid log output: {name} (must be 'stdout', 'stderr' or 'file')"

def Format.ofName? (name : String) : Option Format :=
  if name = "json" then some .json else if name = "text" then some .text else none

def Output.ofName? (name : String) : Option Output :=
  if name = "stdout" then some .stdout
  else if name = "stderr" then some .stderr
  else if name = "file" then some .file
  else none

namespace Config

def overrideFilter (grammar : Grammar) (env : Environment) (config : Config) :
    Except ChoiceFault Config :=
  match env.get? filterVariable with
  | none => .ok config
  | some text =>
    match Filter.read grammar text with
    | .error reason => .error (.filterOverride reason)
    | .ok _ => .ok { config with level := text, modules := HashMap.empty }

def overrideFormat (env : Environment) (config : Config) : Except ChoiceFault Config :=
  match env.get? formatVariable with
  | none => .ok config
  | some name =>
    match Format.ofName? name with
    | none => .error (.formatOverride name)
    | some _ => .ok { config with format := name }

def overrideOutput (env : Environment) (config : Config) : Except ChoiceFault Config :=
  match env.get? outputVariable with
  | none => .ok config
  | some name =>
    match Output.ofName? name with
    | none => .error (.output name)
    | some _ => .ok { config with output := name }

/-- Applies the overrides in order. The configuration is what stands after them or after the first
fault. -/
def applyAll (config : Config) :
    List (Config → Except ChoiceFault Config) → Config × Option ChoiceFault
  | [] => (config, none)
  | override :: rest =>
    match override config with
    | .error fault => (config, some fault)
    | .ok config => applyAll config rest

def applyOverrides (grammar : Grammar) (env : Environment) (config : Config) :
    Config × Option ChoiceFault :=
  applyAll config [overrideFilter grammar env, overrideFormat env, overrideOutput env]

end Config

end Fleet.Log
