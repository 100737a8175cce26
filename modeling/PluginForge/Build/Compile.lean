/-
The compile of one group. An attempt that fails for want of a symbol is repeated without the imports
that its errors point at, as long as there are such imports and retries left.
-/
import PluginForge.Build.Phase
import PluginForge.Compiler.Service
import PluginForge.Grouping
import PluginForge.Repair.MissingSymbol
import PluginForge.Settings.Basic

namespace PluginForge

/-- Why a group ends without success. -/
inductive StopReason where
  /-- No error is about a missing symbol. -/
  | notRetryable
  /-- No import is related to a missing symbol. -/
  | nothingToRemove
  | retriesExhausted
  /-- The compile service itself failed. -/
  | serviceFailure
  | artifactWriteFailed
deriving DecidableEq, Repr

def StopReason.name : StopReason → String
  | .notRetryable => "NotRetryable"
  | .nothingToRemove => "NothingToRemove"
  | .retriesExhausted => "RetriesExhausted"
  | .serviceFailure => "ServiceFailure"
  | .artifactWriteFailed => "ArtifactWriteFailed"

/-- How the attempts for a group end: their number, the number of imports removed between them, the
output of the last one, and why there was no further one. There is at most one attempt more than
retries are allowed, so that a word of 32 bits holds their number unless `retryCount` is the largest
of these words. -/
structure GroupCompile where
  attempts : Nat
  removedImports : Nat
  output : EmitOutput
  stopReason : Option StopReason
deriving DecidableEq, Repr

/-- What the attempts change: the compile service and the phases. -/
structure CompileState (σ : Type) where
  service : σ
  phases : List Phase

namespace CompileState

def enter {σ : Type} (s : CompileState σ) (p : Phase) : CompileState σ :=
  { s with phases := Phase.enter s.phases p }

end CompileState

namespace GroupCompile

variable {σ ρ : Type} (service : CompileService σ ρ)

/-- Why no attempt follows one that failed with these diagnostics, when so many retries are left and
so many imports could be removed. -/
def stopReason? (retries removable : Nat) (ds : List Diagnostic) : Option StopReason :=
  if ! ds.any MissingSymbol.reports then some .notRetryable
  else if retries = 0 then some .retriesExhausted
  else if removable = 0 then some .nothingToRemove
  else none

/-- One attempt. -/
def emitOnce (request : EmitRequest) (s : CompileState σ) :
    Except ServiceError EmitOutput × CompileState σ :=
  let s := s.enter .compiling
  let (r, state) := service.emit request s.service
  (r.guarded, { s with service := state })

/-- The attempts after `attempts` earlier ones, between which `removed` imports were removed. -/
def compileFrom (retries attempts removed : Nat) (request : EmitRequest) (s : CompileState σ) :
    Except ServiceError GroupCompile × CompileState σ :=
  match emitOnce service request s with
  | (.error e, s) => (.error e, s)
  | (.ok output, s) =>
    if output.success then (.ok ⟨attempts + 1, removed, output, none⟩, s)
    else
      let offending := MissingSymbol.offendingNames output.diagnostics
      let (sources, n) := MissingSymbol.prune request.sources offending
      match retries, stopReason? retries n output.diagnostics with
      | retries + 1, none =>
        compileFrom retries (attempts + 1) (removed + n) { request with sources }
          (s.enter .retrying)
      | _, reason => (.ok ⟨attempts + 1, removed, output, reason⟩, s)

end GroupCompile

namespace CompilationGroup

/-- The first request for a group. -/
def request (g : CompilationGroup) (version : LanguageVersion) (references : List Path) :
    EmitRequest where
  assemblyName := safeName g.key
  sources := g.sources
  languageVersion := version
  references
  policy := .standard

/-- Compiles a group. -/
def compile {σ ρ : Type} (service : CompileService σ ρ) (settings : Settings)
    (references : List Path) (g : CompilationGroup) (s : CompileState σ) :
    Except ServiceError GroupCompile × CompileState σ :=
  GroupCompile.compileFrom service settings.retryCount.toNat 0 0
    (g.request settings.languageVersion references) s

end CompilationGroup
end PluginForge
