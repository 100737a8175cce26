/-
What passes between the engine and its compiler: every call together with how it ended. The
exchanges are noted by a service that asks another one and keeps its answers.

Noting changes nothing: a map between the states of two services under which their calls are the
same calls (`Simulates`) carries over to everything that is done with the services, and forgetting
the notes is such a map.
-/
import PluginForge.Compiler.Service

namespace PluginForge

namespace Outcome

/-- Whether a call is answered: it neither fails nor crashes. -/
def isAnswer {α : Type} : Outcome α → Bool
  | .answer _ => true
  | _ => false

theorem guarded_eq_ok {α : Type} {r : Outcome α} {a : α} (h : r.guarded = .ok a) :
    r = .answer a := by
  cases r with
  | answer b => cases h; rfl
  | failure e => cases h
  | crash t => cases h

theorem guarded_ne_error {α : Type} {r : Outcome α} (h : r.isAnswer = true) (e : ServiceError) :
    r.guarded ≠ .error e := by
  cases r with
  | answer a => exact fun he => by cases he
  | failure e => cases h
  | crash t => cases h

end Outcome

/-- A call of a compile service and how it ended. -/
inductive Exchange (ρ : Type) where
  | parse (source : SourceFile) (version : LanguageVersion) (answer : Outcome SyntaxTree)
  | emit (request : EmitRequest) (answer : Outcome EmitOutput)
  | compileScript (request : ScriptRequest) (answer : Outcome (ScriptBuild ρ))
  | run (code : ρ) (context : Json) (answer : ScriptRun)

/-- One request to emit a library and how it ended. -/
structure Attempt where
  request : EmitRequest
  answer : Outcome EmitOutput

namespace Attempt

/-- The exchange that an attempt is. -/
def exchange {ρ : Type} (a : Attempt) : Exchange ρ :=
  .emit a.request a.answer

end Attempt

namespace Exchange

variable {ρ : Type}

def attempt? : Exchange ρ → Option Attempt
  | .emit request answer => some ⟨request, answer⟩
  | _ => none

/-- The source of an exchange that parses one. -/
def source? : Exchange ρ → Option SourceFile
  | .parse source _ _ => some source
  | _ => none

/-- Whether a source is parsed in an exchange. -/
def isParse : Exchange ρ → Bool
  | .parse .. => true
  | _ => false

/-- The attempts among some exchanges, in order. -/
def attempts (xs : List (Exchange ρ)) : List Attempt :=
  xs.filterMap attempt?

/-- The sources that are parsed in some exchanges, in order. -/
def sources (xs : List (Exchange ρ)) : List SourceFile :=
  xs.filterMap source?

@[simp] theorem sources_append (xs ys : List (Exchange ρ)) :
    sources (xs ++ ys) = sources xs ++ sources ys :=
  List.filterMap_append

@[simp] theorem attempts_append (xs ys : List (Exchange ρ)) :
    attempts (xs ++ ys) = attempts xs ++ attempts ys :=
  List.filterMap_append

theorem attempts_of_isParse {xs : List (Exchange ρ)} (h : ∀ x ∈ xs, x.isParse = true) :
    attempts xs = [] := by
  refine List.filterMap_eq_nil_iff.2 fun x hx => ?_
  have hp := h x hx
  cases x with
  | parse => rfl
  | _ => cases hp

@[simp] theorem attempts_map_exchange (as : List Attempt) :
    attempts (as.map Attempt.exchange : List (Exchange ρ)) = as := by
  simp [attempts, List.filterMap_map, Function.comp_def, Attempt.exchange, attempt?]

@[simp] theorem sources_map_exchange (as : List Attempt) :
    sources (as.map Attempt.exchange : List (Exchange ρ)) = [] := by
  simp [sources, List.filterMap_map, Function.comp_def, Attempt.exchange, source?]

end Exchange

/-- The state of a service with the exchanges so far, in order. -/
structure Traced (σ ρ : Type) where
  state : σ
  exchanges : List (Exchange ρ)

namespace Traced

variable {σ ρ : Type}

/-- A state before any exchange. -/
def start (s : σ) : Traced σ ρ := ⟨s, []⟩

/-- Makes a call and notes how it ended. -/
def step {α : Type} (note : α → Exchange ρ) (f : σ → α × σ) (t : Traced σ ρ) : α × Traced σ ρ :=
  ((f t.state).1, ⟨(f t.state).2, t.exchanges ++ [note (f t.state).1]⟩)

end Traced

namespace CompileService

variable {σ τ ρ : Type}

/-- The service with a note of each exchange. -/
def traced (service : CompileService σ ρ) : CompileService (Traced σ ρ) ρ where
  parse := fun source version => Traced.step (.parse source version) (service.parse source version)
  emit := fun request => Traced.step (.emit request) (service.emit request)
  compileScript := fun request =>
    Traced.step (.compileScript request) (service.compileScript request)
  run := fun code context => Traced.step (.run code context) (service.run code context)

/-- Every call of `S` is the same call of `T`, with the states of `S` seen through `f`. -/
structure Simulates (S : CompileService σ ρ) (T : CompileService τ ρ) (f : σ → τ) : Prop where
  parse : ∀ source version s,
    T.parse source version (f s) = Prod.map id f (S.parse source version s)
  emit : ∀ request s, T.emit request (f s) = Prod.map id f (S.emit request s)
  compileScript : ∀ request s,
    T.compileScript request (f s) = Prod.map id f (S.compileScript request s)
  run : ∀ code context s, T.run code context (f s) = Prod.map id f (S.run code context s)

/-- Noting the exchanges changes nothing. -/
theorem traced_simulates (service : CompileService σ ρ) :
    service.traced.Simulates service Traced.state where
  parse _ _ _ := rfl
  emit _ _ := rfl
  compileScript _ _ := rfl
  run _ _ _ := rfl

end CompileService
end PluginForge
