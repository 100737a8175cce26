/-
The compile service behind a helper program. A compiled script stays with the helper, which gives a
handle for it.
-/
import PluginForge.Compiler.Helper.Exchange

namespace PluginForge

/-- A helper program in an environment with states `σ`. -/
abbrev Helper (σ : Type) := HelperRequest → σ → HelperRun × σ

/-- A script that a helper compiled. -/
structure HelperScript where
  script : String
  handle : String
deriving DecidableEq, Repr

/-- What a helper answers to a request to compile a script. -/
structure ScriptPayload where
  success : Bool
  diagnostics : List Diagnostic
  handle : Option String

namespace ScriptPayload

open Json.Draft in
def ofDraft? (d : Json.Draft) : Option ScriptPayload :=
  match record? ["success", "diagnostics", "handle"] d with
  | some [success, diagnostics, handle] => do
    return {
      success := ← required bool? success
      diagnostics := ← optional (list? Diagnostic.ofDraft?) [] diagnostics
      handle := ← optional (option? string?) none handle }
  | _ => none

/-- The build that a payload tells of; a script that compiled must have a handle. -/
def build (name : String) (p : ScriptPayload) : Except ServiceError (ScriptBuild HelperScript) :=
  match p.success, p.handle with
  | true, some handle => .ok ⟨true, p.diagnostics, some ⟨name, handle⟩⟩
  | true, none => .error (.protocol "successful script compile without a handle")
  | false, _ => .ok ⟨false, p.diagnostics, none⟩

end ScriptPayload

namespace Helper

/-- A call that succeeded or failed. -/
def outcome {α : Type} : Except ServiceError α → Outcome α
  | .ok a => .answer a
  | .error e => .failure e

/-- Asks a helper and reads the payload of its answer. -/
def ask {σ α : Type} (helper : Helper σ) (decode? : Json.Draft → Option α) (request : HelperRequest)
    (s : σ) : Except ServiceError α × σ :=
  let (run, s) := helper request s
  (run.decode decode?, s)

/-- Runs a script; the failure of the helper is that of the script. -/
def invoke {σ : Type} (helper : Helper σ) (code : HelperScript) (context : Json) (s : σ) :
    ScriptRun × σ :=
  match helper.ask Json.Draft.toJson? (.invoke code.script code.handle context) s with
  | (.ok value, s) => (⟨.value value, 0⟩, s)
  | (.error e, s) => (⟨.failure e.message, 0⟩, s)

def service {σ : Type} (helper : Helper σ) : CompileService σ HelperScript where
  parse := fun source version s =>
    let (r, s) := helper.ask SyntaxTree.ofDraft? (.parse source version) s
    (outcome r, s)
  emit := fun request s =>
    let (r, s) := helper.ask EmitOutput.ofDraft? (.emit request) s
    (outcome r, s)
  compileScript := fun request s =>
    let (r, s) := helper.ask ScriptPayload.ofDraft? (.script request) s
    (outcome (r.bind (ScriptPayload.build request.name)), s)
  run := helper.invoke

end Helper
end PluginForge
