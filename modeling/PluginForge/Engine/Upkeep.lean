/-
What the engine does to its workspace besides building: removing the sources and the logs, listing
the artifacts, and describing the directories.
-/
import PluginForge.Build.FailureLog
import PluginForge.Build.Artifact
import PluginForge.Engine.Basic
import PluginForge.Intake.Ingest

namespace PluginForge

/-- The directories of a workspace, each with the number of its files. -/
structure WorkspaceSummary where
  workspace : Workspace
  sourceFiles : Nat
  artifacts : Nat
  assemblies : Nat
  logs : Nat
deriving DecidableEq, Repr

namespace WorkspaceSummary

def line (title : String) (dir : Path) (count : Nat) (noun : String) : String :=
  title ++ dir.text ++ " (" ++ toString count ++ " " ++ noun ++ ")"

def display (s : WorkspaceSummary) : String :=
  "\n".intercalate [
    line "source:     " s.workspace.sourceDir s.sourceFiles "files",
    line "output:     " s.workspace.outputDir s.artifacts "artifacts",
    line "assemblies: " s.workspace.assembliesDir s.assemblies "binaries",
    line "logs:       " s.workspace.logsDir s.logs "logs"]

end WorkspaceSummary

namespace Engine

variable {φ σ ρ : Type} (e : Engine φ σ ρ)

/-- Removes every file below the source directory; returns how many were removed. A directory that
is not there is made. -/
def cleanSources (s : EngineState φ σ ρ) : Except StoreError Nat × EngineState φ σ ρ :=
  let dir := e.workspace.sourceDir
  if e.store.isDir dir s.files then
    match e.store.list dir "" true s.files with
    | .error err => (.error err, s)
    | .ok paths =>
      let (n, files) := e.store.removeAll paths s.files
      (.ok n, { s with files })
  else
    match e.store.makeDir dir s.files with
    | (.error err, files) => (.error err, { s with files })
    | (.ok (), files) => (.ok 0, { s with files })

/-- The file names of the libraries in the output directory. -/
def listArtifacts (s : EngineState φ σ ρ) : Except StoreError (List String) :=
  let dir := e.workspace.outputDir
  if e.store.isDir dir s.files then
    (e.store.list dir libraryExtension false s.files).map (·.filterMap Path.fileName?)
  else .ok []

/-- Removes the failure logs; returns how many were removed. -/
def clearLogs (s : EngineState φ σ ρ) : Nat × EngineState φ σ ρ :=
  let (n, files) := FailureLog.clear e.store e.workspace.logsDir s.files
  (n, { s with files })

/-- The number of files in a directory; one that cannot be listed has none. -/
def countFiles (dir : Path) (extension : String) (recursive : Bool) (files : φ) : Nat :=
  match e.store.list dir extension recursive files with
  | .ok paths => paths.length
  | .error _ => 0

def describePaths (s : EngineState φ σ ρ) : WorkspaceSummary where
  workspace := e.workspace
  sourceFiles := e.countFiles e.workspace.sourceDir Intake.sourceExtension
    e.settings.includeSubdirectories s.files
  artifacts := e.countFiles e.workspace.outputDir libraryExtension false s.files
  assemblies := e.countFiles e.workspace.assembliesDir libraryExtension true s.files
  logs := e.countFiles e.workspace.logsDir logExtension false s.files

end Engine
end PluginForge
