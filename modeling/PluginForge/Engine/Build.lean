/-
A build: the sources are taken in and grouped, and each group is compiled against the resolved
references. A group that fails leaves a log and does not keep the others from being compiled; only a
compiler without memory ends the build.
-/
import PluginForge.Build.Failure
import PluginForge.Build.FailureLog
import PluginForge.Build.Report
import PluginForge.Engine.Basic

namespace PluginForge.Engine

variable {φ σ ρ : Type} (e : Engine φ σ ρ)

/-! ## One group -/

/-- Compiles a group. -/
def compileGroup (references : List Path) (g : CompilationGroup) (s : EngineState φ σ ρ) :
    Except ServiceError GroupCompile × EngineState φ σ ρ :=
  let (r, c) := g.compile e.service e.settings references ⟨s.service, s.phases⟩
  (r, { s with service := c.service, phases := c.phases })

/-- Writes the artifacts of a group that was compiled. -/
def writeArtifacts (output : EmitOutput) (o : GroupOutcome) (s : EngineState φ σ ρ) :
    GroupOutcome × EngineState φ σ ρ :=
  match Artifact.write e.store e.workspace.outputDir o.key output s.files with
  | (.ok artifacts, files) => ({ o with success := true, artifacts }, { s with files })
  | (.error err, files) =>
    ({ o with stopReason := some .artifactWriteFailed, message := some err.message },
      { s with files })

/-- Writes the log of a group that failed. -/
def writeLog (name : String) (t : TimeStamp) (o : GroupOutcome) (s : EngineState φ σ ρ) :
    GroupOutcome × EngineState φ σ ρ :=
  match FailureLog.write e.store e.logStyle e.workspace.logsDir o.key name o.diagnostics t s.files
  with
  | (.ok p, files) => ({ o with log := some p }, { s with files })
  | (.error _, files) => (o, { s with files })

/-- Compiles a group and writes its artifacts or its log. -/
def buildGroup (references : List Path) (t : TimeStamp) (g : CompilationGroup)
    (s : EngineState φ σ ρ) : Except ServiceError GroupOutcome × EngineState φ σ ρ :=
  match e.compileGroup references g s with
  | (.error err, s) =>
    if err.isOutOfMemory then (.error err, s)
    else
      (.ok { GroupOutcome.start g with
        stopReason := some .serviceFailure
        message := some err.message }, s)
  | (.ok c, s) =>
    let (o, s) :=
      if c.output.success then e.writeArtifacts c.output (.ofCompile g c) s
      else e.writeLog g.displayName t (.ofCompile g c) s
    (.ok o, s)

/-- Builds groups in order; `clock` gives the time at which each of them is reported, from the one
of number `index` on. -/
def buildGroups (references : List Path) (clock : Nat → TimeStamp) (index : Nat) :
    List CompilationGroup → EngineState φ σ ρ →
      Except ServiceError (List GroupOutcome) × EngineState φ σ ρ
  | [], s => (.ok [], s)
  | g :: rest, s =>
    match e.buildGroup references (clock index) g s with
    | (.error err, s) => (.error err, s)
    | (.ok o, s) =>
      match buildGroups references clock (index + 1) rest s with
      | (.error err, s) => (.error err, s)
      | (.ok outcomes, s) => (.ok (o :: outcomes), s)

/-! ## The cycle -/

/-- Builds the groups of some units. -/
def buildUnits (clock : Nat → TimeStamp) (report : IntakeReport) (s : EngineState φ σ ρ) :
    Except BuildFailure BuildReport × EngineState φ σ ρ :=
  match e.takeReferences s with
  | (.error err, s) => (.error (.ofReference err), s)
  | (.ok references, s) =>
    let groups := CompilationGroup.partition e.settings.pluginBaseType report.units
    match e.buildGroups references clock 0 groups s with
    | (.error err, s) => (.error (.ofService err), s)
    | (.ok outcomes, s) => (.ok ⟨report.units.length, report.skipped, outcomes⟩, s)

/-- Takes in the sources below a root and builds them. -/
def runCycle (root : Path) (clock : Nat → TimeStamp) (s : EngineState φ σ ρ) :
    Except BuildFailure BuildReport × EngineState φ σ ρ :=
  let s := s.enter .ingesting
  let files := Artifact.clean e.store e.workspace.outputDir s.files
  match Intake.ingest e.store e.service e.settings root files s.service with
  | (.error err, files, service) => (.error (.ofIntake err), { s with files, service })
  | (.ok report, files, service) =>
    let s := { s with files, service }
    if report.units.isEmpty then (.error (.noSources root report.skipped), s)
    else e.buildUnits clock report s

/-- Removes the logs of earlier builds after a build in which every group succeeded. -/
def settleLogs (r : Except BuildFailure BuildReport) (s : EngineState φ σ ρ) : EngineState φ σ ρ :=
  match r with
  | .ok report =>
    if report.allSucceeded && e.settings.clearLogsOnSuccess then
      { s with files := (FailureLog.clear e.store e.workspace.logsDir s.files).2 }
    else s
  | .error _ => s

/-- The phase in which a build ends. -/
def finalPhase : Except BuildFailure BuildReport → Phase
  | .ok report => if report.allSucceeded then .success else .failed
  | .error _ => .failed

/-- Builds everything below a root. The references are dropped at the end, however the build
ends. -/
def buildDir (root : Path) (clock : Nat → TimeStamp) (s : EngineState φ σ ρ) :
    Except BuildFailure BuildReport × EngineState φ σ ρ :=
  if e.settings.enabled then
    let (r, s) := e.runCycle root clock s
    (r, ((e.settleLogs r s).dropReferences).enter (finalPhase r))
  else (.error .disabled, s.enter .failed)

/-- Builds everything below the workspace's source directory. -/
def build (clock : Nat → TimeStamp) (s : EngineState φ σ ρ) :
    Except BuildFailure BuildReport × EngineState φ σ ρ :=
  e.buildDir e.workspace.sourceDir clock s

end PluginForge.Engine
