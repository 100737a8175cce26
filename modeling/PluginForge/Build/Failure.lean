/-
Builds that fail as a whole: what kind of failure it is, its message, and hints for the user. Every
failure of a part has its form as a failure of the build.
-/
import PluginForge.Intake.Ingest
import PluginForge.Reference.Resolve

namespace PluginForge

inductive FailureKind where
  | inputRejected
  | noEligibleFiles
  | noReferences
  | resourceExhausted
  | service
  | io
deriving DecidableEq, Repr

def FailureKind.name : FailureKind → String
  | .inputRejected => "input rejected"
  | .noEligibleFiles => "no eligible files"
  | .noReferences => "no references"
  | .resourceExhausted => "resource exhausted"
  | .service => "compile service failure"
  | .io => "io failure"

structure BuildFailure where
  kind : FailureKind
  message : String
  hints : List String
deriving DecidableEq, Repr

namespace BuildFailure

/-- The failure as it is shown, with a line for each hint. -/
def display (f : BuildFailure) : String :=
  f.kind.name ++ ": " ++ f.message ++ String.join (f.hints.map ("\n  - " ++ ·))

def ofService (e : ServiceError) : BuildFailure :=
  if e.isOutOfMemory then
    ⟨.resourceExhausted, e.message, ["reduce the number or size of source files"]⟩
  else ⟨.service, e.message, []⟩

def ofReference (e : ReferenceError) : BuildFailure :=
  ⟨.noReferences, e.message,
    ["check the assemblies folder", "check the host and runtime install directories"]⟩

def ofStore (e : StoreError) : BuildFailure :=
  ⟨.io, e.message, []⟩

def ofIntake (e : IntakeError) : BuildFailure :=
  match e with
  | .rootCreated _ =>
    ⟨.inputRejected, e.message,
      ["place source files in the created directory and build again"]⟩
  | .tooManyFiles .. | .tooLarge .. =>
    ⟨.inputRejected, e.message, ["split the submission or raise maxFiles / maxSizeMB"]⟩
  | .store _ => ⟨.io, e.message, []⟩
  | .service e => ofService e

/-- The failure of an engine that is switched off. -/
def disabled : BuildFailure :=
  ⟨.inputRejected, "compilation is disabled", ["enable compilation in the configuration"]⟩

/-- The failure of a build in which no source is left. -/
def noSources (root : Path) (skipped : List SkippedFile) : BuildFailure :=
  ⟨.noEligibleFiles, "no eligible source files in " ++ root.text,
    "place .cs files in the source folder" ::
      if skipped.isEmpty then [] else ["fix or remove the skipped files"]⟩

end BuildFailure
end PluginForge
