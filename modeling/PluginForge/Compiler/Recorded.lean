/-
A compile service together with the calls it got, whatever came of them.
-/
import PluginForge.Compiler.Service

namespace PluginForge

/-- A call of a compile service. -/
inductive ServiceCall where
  | parse (source : SourceFile) (version : LanguageVersion)
  | emit (request : EmitRequest)
  | compileScript (request : ScriptRequest)
deriving DecidableEq, Repr

/-- The state of a service with the calls so far, the last one first. -/
structure Recorded (σ : Type) where
  state : σ
  calls : List ServiceCall

namespace Recorded

variable {σ : Type}

/-- A state before any call. -/
def start (s : σ) : Recorded σ := ⟨s, []⟩

/-- Makes a call and records it. -/
def step {α : Type} (call : ServiceCall) (f : σ → α × σ) (r : Recorded σ) : α × Recorded σ :=
  let (a, s) := f r.state
  (a, ⟨s, call :: r.calls⟩)

/-- The texts that were parsed, in order. -/
def parsed (r : Recorded σ) : List String :=
  r.calls.reverse.filterMap fun
    | .parse source _ => some source.text
    | _ => none

/-- The requests to emit, in order. -/
def emitted (r : Recorded σ) : List EmitRequest :=
  r.calls.reverse.filterMap fun
    | .emit request => some request
    | _ => none

/-- The requests to compile scripts, in order. -/
def scripts (r : Recorded σ) : List ScriptRequest :=
  r.calls.reverse.filterMap fun
    | .compileScript request => some request
    | _ => none

end Recorded

/-- The service with a record of its calls. -/
def CompileService.recorded {σ ρ : Type} (service : CompileService σ ρ) :
    CompileService (Recorded σ) ρ where
  parse := fun source version =>
    Recorded.step (.parse source version) (service.parse source version)
  emit := fun request => Recorded.step (.emit request) (service.emit request)
  compileScript := fun request =>
    Recorded.step (.compileScript request) (service.compileScript request)
  run := fun code context r =>
    let (a, s) := service.run code context r.state
    (a, { r with state := s })

end PluginForge
