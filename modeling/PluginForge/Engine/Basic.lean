/-
The engine: its settings, where it works and what it works with, and the state that it changes.
-/
import PluginForge.Build.Compile
import PluginForge.Reference.Resolve
import PluginForge.Report.Log
import PluginForge.Script.Shelf

namespace PluginForge

/-- An engine over file systems with states `φ` and a compile service with states `σ` and compiled
scripts `ρ`. -/
structure Engine (φ σ ρ : Type) where
  settings : Settings
  workspace : Workspace
  roots : ReferenceRoots
  store : FileSystem φ
  service : CompileService σ ρ
  /-- Libraries that scripts are compiled against besides the references. -/
  extraAssemblies : List Path

/-- What an engine changes. -/
structure EngineState (φ σ ρ : Type) where
  files : φ
  service : σ
  /-- The reference set that is kept during a cycle. -/
  references : Option (List Path)
  /-- The phases so far, the present one first. -/
  phases : List Phase
  scripts : Script.Shelf ρ

namespace EngineState

variable {φ σ ρ : Type}

/-- The state of a new engine. -/
def start (files : φ) (service : σ) : EngineState φ σ ρ where
  files
  service
  references := none
  phases := [.idle]
  scripts := .empty

/-- The present phase. -/
def phase (s : EngineState φ σ ρ) : Phase :=
  s.phases.headD .idle

def enter (s : EngineState φ σ ρ) (p : Phase) : EngineState φ σ ρ :=
  { s with phases := Phase.enter s.phases p }

/-- Drops the reference set that is kept. -/
def dropReferences (s : EngineState φ σ ρ) : EngineState φ σ ρ :=
  { s with references := none }

end EngineState

namespace Engine

variable {φ σ ρ : Type} (e : Engine φ σ ρ)

/-- Which forms of a message failure logs show. -/
def logStyle : Report.LogStyle :=
  .ofFlags e.settings.showEnglishErrors e.settings.showChineseErrors

/-- The references of the present cycle, which are kept from here on. -/
def takeReferences (s : EngineState φ σ ρ) :
    Except ReferenceError (List Path) × EngineState φ σ ρ :=
  let (r, references, files) :=
    Reference.getOrResolve e.store e.settings e.roots s.references s.files
  (r, { s with references, files })

end Engine
end PluginForge
