/-
The directories of a workspace: where sources, build results, reference assemblies and failure logs
lie below the workspace's base directory, and where its settings are kept.
-/
import PluginForge.Path

namespace PluginForge

structure Workspace where
  base : Path
deriving DecidableEq, Repr

namespace Workspace

def sourceDir (w : Workspace) : Path :=
  w.base.join "source"

def outputDir (w : Workspace) : Path :=
  w.base.join "compiled output"

def assembliesDir (w : Workspace) : Path :=
  w.base.join "assemblies"

def logsDir (w : Workspace) : Path :=
  w.base.join "compile logs"

def settingsPath (w : Workspace) : Path :=
  w.base.join "hotbuild.json"

end Workspace
end PluginForge
