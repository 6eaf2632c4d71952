import Fleet.Document.Load
import Fleet.Log.Fault
import Fleet.Manifest.Load
import Fleet.Settings.Layer

/-!
# Faults of a run

The stages of a run fail in different ways; a fault names the stage and says why.
-/
namespace Fleet

inductive RunFault where
  | document (reason : DocumentFault)
  | settings (reason : SettingsFault)
  | manifest (reason : ManifestFault)
  | logging (reason : LoggingFault)
  | serialization (reason : SerializationFault)

def RunFault.message : RunFault → String
  | document reason => s!"Configuration document error: {reason.message}"
  | settings reason => s!"Settings error: {reason.message}"
  | manifest reason => s!"Machine manifest error: {reason.message}"
  | logging reason => s!"Logging error: {reason.message}"
  | serialization reason => s!"Serialization error: {reason.message}"

/-- The line in which a run reports the fault that ended it. -/
def RunFault.line (fault : RunFault) : String := s!"error: {fault.message}"

end Fleet
