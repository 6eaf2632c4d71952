import Fleet.Command.Run
import Fleet.Journal

/-!
# Journals of the stages of a launch

Beside what its activities report, a launch reports that it has begun, that its context is ready,
which command it carries out, and how it ended.
-/
namespace Fleet.Journal
open Log

def starting : Record := ⟨.info, "machine_config", "machine-config starting", []⟩

def ready (path : Path) : Record :=
  ⟨.info, "machine_config::cli::route", "Configuration store ready",
    [("document", .plain path.display)]⟩

def executing (command : Command) : Record :=
  ⟨.info, "machine_config::cli::route", "Executing command",
    [("command", .quoted command.name.text)]⟩

/-- Nothing is reported of a manifest, but without one there is nothing else to report. -/
def ofManifest (context : Context) (files : Files) (path : Path)
    (report : List Machine.Spec → List Record) : List Record :=
  match context.loadManifest files path with
  | .error _ => []
  | .ok manifest => report manifest.machines

def execution (context : Context) (files : Files) : Command → List Record
  | .machines path _ => ofManifest context files path (machines context.store)
  | .folders category variableName _ =>
    folders context.store category (variableName.getD (Folders.defaultVariable category))
  | .plan path =>
    ofManifest context files path fun specs =>
      machines context.store specs ++ plan context.store (Machine.resolveAll context.store specs)
  | .settings => []

def completed : Record := ⟨.info, "machine_config", "Command completed successfully", []⟩

def loadFailed (fault : RunFault) : Record :=
  ⟨.error, "machine_config", s!"Error loading configuration: {fault.message}", []⟩

def executionFailed (fault : RunFault) : Record :=
  ⟨.error, "machine_config", s!"Command failed: {fault.message}", []⟩

end Fleet.Journal
