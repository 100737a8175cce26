/-
What passes between the engine and its compiler over a script. A request to have a script compiled
asks the compiler at most once: not at all if the shelf holds the script with the same content or
there is nothing to reference, and otherwise for this script. Running one asks for the code on the
shelf to be run.
-/
import PluginForge.Engine.Scripts
import PluginForge.Proofs.Shelf
import PluginForge.Proofs.Simulation

namespace PluginForge

variable {φ σ τ ρ : Type}

@[simp] theorem EngineState.map_scripts (f : σ → τ) (s : EngineState φ σ ρ) :
    (s.map f).scripts = s.scripts := rfl

@[simp] theorem EngineState.map_dropReferences (f : σ → τ) (s : EngineState φ σ ρ) :
    (s.map f).dropReferences = s.dropReferences.map f := rfl

namespace Engine

/-! ## Noting the exchanges -/

@[simp] theorem withService_extraAssemblies (e : Engine φ σ ρ) (T : CompileService τ ρ) :
    (e.withService T).extraAssemblies = e.extraAssemblies := rfl

@[simp] theorem withService_scriptRequest (e : Engine φ σ ρ) (T : CompileService τ ρ) :
    (e.withService T).scriptRequest = e.scriptRequest := rfl

section

variable {e : Engine φ σ ρ} {T : CompileService τ ρ} {f : σ → τ} (h : e.service.Simulates T f)

include h

theorem compileScript_simulates (name source : String) (imports : List String)
    (s : EngineState φ σ ρ) :
    (e.withService T).compileScript name source imports (s.map f) =
      Prod.map id (EngineState.map f) (e.compileScript name source imports s) := by
  unfold compileScript
  rw [takeReferences_map]
  rcases e.takeReferences s with ⟨r, s'⟩
  cases r with
  | error err => rfl
  | ok references =>
    rcases hr : e.service.compileScript (e.scriptRequest name source imports
      (Reference.withExtra references
        (Reference.loadablePaths e.store s'.files e.extraAssemblies))) s'.service with ⟨r, service⟩
    simp only [Prod.map_apply, id_eq, withService_service, withService_store,
      withService_extraAssemblies, withService_scriptRequest, EngineState.map_files,
      EngineState.map_service, h.compileScript, hr]
    rfl

theorem precompile_simulates (name source : String) (imports : List String)
    (s : EngineState φ σ ρ) :
    (e.withService T).precompile name source imports (s.map f) =
      Prod.map id (EngineState.map f) (e.precompile name source imports s) := by
  simp only [precompile, compileScript_simulates h, EngineState.map_scripts]
  split
  · rfl
  · rcases e.compileScript name source imports s with ⟨r, s'⟩
    cases r <;> rfl

theorem run_simulates (name : String) (context : Json) (limit : Nat) (s : EngineState φ σ ρ) :
    (e.withService T).run name context limit (s.map f) =
      Prod.map id (EngineState.map f) (e.run name context limit s) := by
  simp only [run, EngineState.map_scripts, withService_service, EngineState.map_service, h.run]
  cases s.scripts.find? name with
  | none => rfl
  | some entry => rfl

end

end Engine

/-! ## Compiling -/

theorem CompileService.traced_compileScript (service : CompileService σ ρ)
    (request : ScriptRequest) (t : Traced σ ρ) :
    ∃ answer state, service.traced.compileScript request t =
      (answer, ⟨state, t.exchanges ++ [.compileScript request answer]⟩) :=
  ⟨_, _, rfl⟩

/-- The code that a compile brings: a success has it, unless there is nothing to run. -/
def Outcome.code? : Outcome (ScriptBuild ρ) → Option ρ
  | .answer build => if build.success then build.code else none
  | _ => none

namespace Engine

variable (e : Engine φ σ ρ)

@[simp] theorem traced_extraAssemblies : e.traced.extraAssemblies = e.extraAssemblies := rfl

@[simp] theorem traced_scriptRequest : e.traced.scriptRequest = e.scriptRequest := rfl

theorem codeFrom_cases (name : String) (answer : Outcome (ScriptBuild ρ)) :
    (∃ code, codeFrom name answer = .ok code ∧ answer.code? = some code) ∨
      (∃ err, codeFrom name answer = .error err) ∧ answer.code? = none := by
  cases answer with
  | answer build =>
    obtain ⟨success, diagnostics, code⟩ := build
    cases success <;> cases code <;> simp [codeFrom, Outcome.guarded, codeOf, Outcome.code?]
  | failure err => exact .inr ⟨⟨_, rfl⟩, rfl⟩
  | crash text => exact .inr ⟨⟨_, rfl⟩, rfl⟩

/-- How the compile of a script goes: there is nothing to reference and nothing is asked, or the
compiler is asked once and brings code or not. -/
inductive Compiling (name source : String) (imports : List String) (s : EngineState φ σ ρ) :
    List (Exchange ρ) → Except ScriptError ρ → Prop
  | noReferences {err} (refs : (e.takeReferences s).1 = .error err) :
      Compiling name source imports s [] (.error (.reference err))
  | compiled {references libraries answer code} (refs : (e.takeReferences s).1 = .ok references)
      (h : Outcome.code? answer = some code) :
      Compiling name source imports s
        [.compileScript (e.scriptRequest name source imports libraries) answer] (.ok code)
  | failed {references libraries answer err} (refs : (e.takeReferences s).1 = .ok references)
      (h : Outcome.code? answer = none) :
      Compiling name source imports s
        [.compileScript (e.scriptRequest name source imports libraries) answer] (.error err)

/-- The libraries that a script is compiled against, given the references. -/
def scriptLibraries (references : List Path) (s : EngineState φ σ ρ) : List Path :=
  Reference.withExtra references
    (Reference.loadablePaths e.store (e.takeReferences s).2.files e.extraAssemblies)

/-- The compile of a script leaves the shelf alone. It fails for want of references with nothing
asked, or brings what the one answer of the compiler brings. -/
theorem compileScript_answer (name source : String) (imports : List String)
    (s : EngineState φ σ ρ) :
    (e.traced.compileScript name source imports s.traceStart).2.scripts = s.scripts ∧
      ((∃ err, (e.takeReferences s).1 = .error err ∧
          (e.traced.compileScript name source imports s.traceStart).2.service.exchanges = [] ∧
          (e.traced.compileScript name source imports s.traceStart).1 = .error (.reference err)) ∨
        ∃ references answer, (e.takeReferences s).1 = .ok references ∧
          (e.traced.compileScript name source imports s.traceStart).2.service.exchanges =
            [.compileScript
              (e.scriptRequest name source imports (e.scriptLibraries references s)) answer] ∧
          (e.traced.compileScript name source imports s.traceStart).1 = codeFrom name answer) := by
  have hr : (e.traced.takeReferences s.traceStart).1 = (e.takeReferences s).1 := rfl
  have hf : (e.traced.takeReferences s.traceStart).2.files = (e.takeReferences s).2.files := rfl
  have hx : (e.traced.takeReferences s.traceStart).2.service = .start s.service := rfl
  have hs : (e.traced.takeReferences s.traceStart).2.scripts = s.scripts := rfl
  unfold compileScript scriptLibraries
  rw [← hf]
  generalize e.traced.takeReferences s.traceStart = r at hr hx hs ⊢
  obtain ⟨r, s'⟩ := r
  cases r with
  | error err =>
    dsimp only at hx hs ⊢
    rw [show s'.dropReferences.service = .start s.service from hx]
    exact ⟨hs, .inl ⟨err, hr.symm, rfl, rfl⟩⟩
  | ok references =>
    dsimp only at hx hs ⊢
    simp only [traced_store, traced_service, traced_extraAssemblies, traced_scriptRequest]
    generalize he : e.scriptRequest name source imports (Reference.withExtra references
      (Reference.loadablePaths e.store s'.files e.extraAssemblies)) = request
    obtain ⟨answer, state, hc⟩ := e.service.traced_compileScript request s'.service
    rw [hx] at hc
    simp only [hx, hc]
    exact ⟨hs, .inr ⟨references, answer, hr.symm, by rw [he]; rfl, rfl⟩⟩

theorem compileScript_compiling (name source : String) (imports : List String)
    (s : EngineState φ σ ρ) :
    e.Compiling name source imports s
      (e.traced.compileScript name source imports s.traceStart).2.service.exchanges
      (e.traced.compileScript name source imports s.traceStart).1 := by
  rcases (e.compileScript_answer name source imports s).2 with
    ⟨err, refs, hx, hr⟩ | ⟨references, answer, refs, hx, hr⟩
  · rw [hx, hr]
    exact .noReferences refs
  · rw [hx, hr]
    rcases codeFrom_cases name answer with ⟨code, hb, hcode⟩ | ⟨⟨err, hb⟩, hcode⟩
    · rw [hb]
      exact .compiled refs hcode
    · rw [hb]
      exact .failed refs hcode

/-! ## Requests and runs -/

section

variable {e} {name source : String} {imports : List String} {s s' : EngineState φ σ ρ}

theorem precompile_cached (held : s.scripts.holds name (Script.contentHash source imports) = true) :
    e.precompile name source imports s = (.ok .cached, s) :=
  if_pos held

theorem precompile_failed {err : ScriptError}
    (held : s.scripts.holds name (Script.contentHash source imports) = false)
    (hc : e.compileScript name source imports s = (.error err, s')) :
    e.precompile name source imports s = (.error err, s') := by
  simp only [precompile, held, hc, Bool.false_eq_true, if_false]

theorem precompile_compiled {code : ρ}
    (held : s.scripts.holds name (Script.contentHash source imports) = false)
    (hc : e.compileScript name source imports s = (.ok code, s')) :
    e.precompile name source imports s = (.ok .compiled,
      { s' with
        scripts := s'.scripts.insert ⟨name, Script.contentHash source imports, code⟩ }) := by
  simp only [precompile, held, hc, Bool.false_eq_true, if_false]

end

/-- The exchanges of a request to have a script compiled. -/
def precompileExchanges (name source : String) (imports : List String) (s : EngineState φ σ ρ) :
    List (Exchange ρ) :=
  (e.traced.precompile name source imports s.traceStart).2.service.exchanges

/-- The exchanges of a run. -/
def runExchanges (name : String) (context : Json) (limit : Nat) (s : EngineState φ σ ρ) :
    List (Exchange ρ) :=
  (e.traced.run name context limit s.traceStart).2.service.exchanges

theorem precompile_traced (name source : String) (imports : List String)
    (s : EngineState φ σ ρ) :
    e.precompile name source imports s = Prod.map id (EngineState.map Traced.state)
      (e.traced.precompile name source imports s.traceStart) :=
  precompile_simulates (e := e.traced) e.service.traced_simulates name source imports s.traceStart

theorem run_traced (name : String) (context : Json) (limit : Nat) (s : EngineState φ σ ρ) :
    e.run name context limit s = Prod.map id (EngineState.map Traced.state)
      (e.traced.run name context limit s.traceStart) :=
  run_simulates (e := e.traced) e.service.traced_simulates name context limit s.traceStart

/-- How a request to have a script compiled goes, and the shelf after it. -/
inductive Precompiling (name source : String) (imports : List String) (s : EngineState φ σ ρ) :
    List (Exchange ρ) → Except ScriptError PrecompileStatus → Script.Shelf ρ → Prop
  | cached (held : s.scripts.holds name (Script.contentHash source imports) = true) :
      Precompiling name source imports s [] (.ok .cached) s.scripts
  | compiled {xs code} (held : s.scripts.holds name (Script.contentHash source imports) = false)
      (h : e.Compiling name source imports s xs (.ok code)) :
      Precompiling name source imports s xs (.ok .compiled)
        (s.scripts.insert ⟨name, Script.contentHash source imports, code⟩)
  | failed {xs err} (held : s.scripts.holds name (Script.contentHash source imports) = false)
      (h : e.Compiling name source imports s xs (.error err)) :
      Precompiling name source imports s xs (.error err) s.scripts

theorem precompile_precompiling (name source : String) (imports : List String)
    (s : EngineState φ σ ρ) :
    e.Precompiling name source imports s (e.precompileExchanges name source imports s)
      (e.precompile name source imports s).1 (e.precompile name source imports s).2.scripts := by
  have hc := e.compileScript_compiling name source imports s
  have hs := (e.compileScript_answer name source imports s).1
  rw [precompile_traced, Prod.map_fst, Prod.map_snd, EngineState.map_scripts, id_eq]
  unfold precompileExchanges
  cases held : s.scripts.holds name (Script.contentHash source imports) with
  | true =>
    rw [precompile_cached (s := s.traceStart) held]
    exact .cached held
  | false =>
    cases hr : e.traced.compileScript name source imports s.traceStart with | mk r s' =>
    rw [hr] at hc hs
    cases r with
    | error err =>
      rw [precompile_failed (s := s.traceStart) held hr, show s'.scripts = s.scripts from hs]
      exact .failed held hc
    | ok code =>
      rw [precompile_compiled (s := s.traceStart) held hr]
      dsimp only at hs ⊢
      rw [hs]
      exact .compiled held hc

/-- How a run goes. -/
inductive Running (name : String) (context : Json) (limit : Nat) (s : EngineState φ σ ρ) :
    List (Exchange ρ) → Except ScriptError Json → Prop
  | absent (h : s.scripts.find? name = none) :
      Running name context limit s [] (.error (.notCompiled name))
  | ran {entry answer} (h : s.scripts.find? name = some entry) :
      Running name context limit s [.run entry.code context answer] (runOutcome name limit answer)

theorem run_running (name : String) (context : Json) (limit : Nat) (s : EngineState φ σ ρ) :
    Running name context limit s (e.runExchanges name context limit s)
        (e.run name context limit s).1 ∧
      (e.run name context limit s).2.scripts = s.scripts := by
  rw [run_traced]
  unfold runExchanges run
  rw [show s.traceStart.scripts = s.scripts from rfl]
  cases h : s.scripts.find? name with
  | none => exact ⟨.absent h, rfl⟩
  | some entry => exact ⟨.ran h, rfl⟩

end Engine
end PluginForge
