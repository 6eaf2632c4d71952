import Fleet.Document.Load
import Fleet.Store

/-!
# Loading stores
-/
namespace Fleet.Store

def load (files : Files) (path : Path) (fallback : Machine.FallbackBoxes) (env : Environment) :
    Except DocumentFault Store :=
  (Document.load files path).map fun document => ⟨document, fallback, env⟩

end Fleet.Store
