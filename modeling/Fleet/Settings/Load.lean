import Fleet.Settings.Layer

/-!
# Loading settings

Settings are layered: defaults, the global file, the file of the workspace, the environment. A file
that is named explicitly takes the place of the two files, and then it has to be there.
-/
namespace Fleet

namespace Settings

def workspaceFile (workspace : Path) : Path := Path.join workspace "machine-config.toml"

def configHome (host : Host) (env : Environment) : Path :=
  match (env.get? "XDG_CONFIG_HOME").filter fun dir => dir ≠ "" with
  | some dir => dir
  | none => Path.join (((env.get? "HOME").map RawText.ofText).getD host.home) ".config"

def globalFile (host : Host) (env : Environment) : Path :=
  Path.join (Path.join (configHome host env) "machine-config") "config.toml"

/-- The layer of a file, if there is one. -/
def optionalLayer (host : Host) (path : Path) : Except SettingsFault (List Members) :=
  if host.files.contains path then (fileLayer host path).map fun layer => [layer] else .ok []

def load (host : Host) (workspace : Path) (env : Environment) :
    Except SettingsFault Settings := do
  let global ← optionalLayer host (globalFile host env)
  let ofWorkspace ← optionalLayer host (workspaceFile workspace)
  ofLayers host.order (global ++ ofWorkspace ++ [environmentLayer host.order env])

def loadFile (host : Host) (path : Path) (env : Environment) : Except SettingsFault Settings := do
  if !host.files.contains path then .error (.noFile path)
  else
    let layer ← fileLayer host path
    ofLayers host.order [layer, environmentLayer host.order env]

end Settings

end Fleet
