/-
What a build reports: an outcome for each group, the files that were skipped, and a summary.
-/
import PluginForge.Build.Artifact
import PluginForge.Build.Compile
import PluginForge.Intake.Skipped

namespace PluginForge

/-- The outcome of one group; what was never found out is left at nothing. -/
structure GroupOutcome where
  key : String
  fullNamespace : String
  pluginName : Option String
  files : List Path
  attempts : Nat
  removedImports : Nat
  success : Bool
  /-- The diagnostics of the last attempt. -/
  diagnostics : List Diagnostic
  artifacts : List Path
  stopReason : Option StopReason
  log : Option Path
  message : Option String
deriving DecidableEq, Repr

namespace GroupOutcome

/-- The outcome of a group about which nothing is known yet. -/
def start (g : CompilationGroup) : GroupOutcome where
  key := g.key
  fullNamespace := g.fullNamespace
  pluginName := g.pluginName
  files := g.units.map ParsedUnit.path
  attempts := 0
  removedImports := 0
  success := false
  diagnostics := []
  artifacts := []
  stopReason := none
  log := none
  message := none

/-- The outcome of a group whose attempts came to an end. -/
def ofCompile (g : CompilationGroup) (c : GroupCompile) : GroupOutcome :=
  { start g with
    attempts := c.attempts
    removedImports := c.removedImports
    diagnostics := c.output.diagnostics
    stopReason := c.stopReason }

def errorCount (o : GroupOutcome) : Nat :=
  Diagnostic.errorCount o.diagnostics

end GroupOutcome

/-- The report of a build that got as far as its groups. -/
structure BuildReport where
  /-- The number of files that went into groups. -/
  files : Nat
  skipped : List SkippedFile
  groups : List GroupOutcome
deriving DecidableEq, Repr

namespace BuildReport

def allSucceeded (r : BuildReport) : Bool :=
  r.groups.all GroupOutcome.success

def succeeded (r : BuildReport) : List GroupOutcome :=
  r.groups.filter GroupOutcome.success

def failed (r : BuildReport) : List GroupOutcome :=
  r.groups.filter (! GroupOutcome.success ·)

/-- The number of libraries among the artifacts. -/
def artifactCount (r : BuildReport) : Nat :=
  (r.groups.flatMap GroupOutcome.artifacts).countP fun p => p.extension? = some libraryExtension

/-- The summary of a build; the milliseconds it took are given as they are to be read. -/
def summary (r : BuildReport) (milliseconds : String) : String :=
  "compiled " ++ toString r.files ++ " files in " ++ milliseconds ++ " ms, produced " ++
    toString r.artifactCount ++ " artifacts (" ++ toString r.failed.length ++ " of " ++
    toString r.groups.length ++ " groups failed)"

end BuildReport
end PluginForge
