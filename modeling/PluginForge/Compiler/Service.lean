/-
The compiler as the engine sees it: a service with a state of its own, whose calls answer, fail or
crash. Nothing is assumed about it; an answer may depend on everything it was asked before.
-/
import PluginForge.Compiler.Request

namespace PluginForge

/-- A failure of the compiler itself, as opposed to an error in what it compiles. -/
inductive ServiceError where
  | outOfMemory (detail : String)
  | crashed (detail : String)
  | transport (detail : String)
  | protocol (detail : String)
  | rejected (detail : String)
deriving DecidableEq, Repr

namespace ServiceError

def message : ServiceError → String
  | .outOfMemory detail => "compile service ran out of memory: " ++ detail
  | .crashed detail => "compile service crashed: " ++ detail
  | .transport detail => "compile service transport failed: " ++ detail
  | .protocol detail => "compile service protocol error: " ++ detail
  | .rejected detail => "compile service rejected the request: " ++ detail

/-- Whether the failure ends everything that is going on. -/
def isOutOfMemory : ServiceError → Bool
  | .outOfMemory _ => true
  | _ => false

end ServiceError

/-- How a call that may crash ends. A crash leaves a text behind, unless what it left is no text. -/
inductive Outcome (α : Type) where
  | answer (a : α)
  | failure (e : ServiceError)
  | crash (text : Option String)
deriving Repr

/-- The text a crash is reported with. -/
def crashText (text : Option String) : String :=
  text.getD "unknown panic"

namespace Outcome

/-- A crash turned into a failure. -/
def guarded {α : Type} : Outcome α → Except ServiceError α
  | .answer a => .ok a
  | .failure e => .error e
  | .crash text => .error (.crashed (crashText text))

end Outcome

/-- How the run of a script ends. -/
inductive RunResult where
  | value (j : Json)
  | failure (message : String)
  | crash (text : Option String)

/-- The run of a script: how it ends, and after how many milliseconds. -/
structure ScriptRun where
  result : RunResult
  duration : Nat

/-- The result of compiling a script. The code `ρ` is what the service runs it by. -/
structure ScriptBuild (ρ : Type) where
  success : Bool
  diagnostics : List Diagnostic
  code : Option ρ

/-- A compile service with states `σ` and compiled scripts `ρ`. -/
structure CompileService (σ ρ : Type) where
  parse : SourceFile → LanguageVersion → σ → Outcome SyntaxTree × σ
  emit : EmitRequest → σ → Outcome EmitOutput × σ
  compileScript : ScriptRequest → σ → Outcome (ScriptBuild ρ) × σ
  run : ρ → Json → σ → ScriptRun × σ

end PluginForge
