/-
A caller of the engine's scripts whom nobody interrupts does what the engine does for a single
caller: whatever compiler the engine works with, the caller's steps lead through the same exchanges
with it to the same result and the same shelf.
-/
import PluginForge.Proofs.Callers
import PluginForge.Proofs.ScriptExchange

namespace PluginForge.Engine

open Callers

variable {ι φ σ ρ : Type} [DecidableEq ι] {e : Engine φ σ ρ} {c c' : Callers ι ρ} {i : ι}
  {a : CallerAction ρ} {job : ScriptJob}

/-- The exchange with the compiler that a step ends. -/
def exchangeOf : CallerAction ρ → Option (Exchange ρ)
  | .answer request answer => some (.compileScript request answer)
  | _ => none

/-- With nobody interrupting, the caller `i` can come to the end of its call: it has the exchanges
`xs` with the compiler, ends with `result` and leaves `shelf`. -/
def EndsAlone (e : Engine φ σ ρ) (c : Callers ι ρ) (i : ι) (xs : List (Exchange ρ))
    (result : Except ScriptError PrecompileStatus) (shelf : Script.Shelf ρ) : Prop :=
  ∃ (actions : List (CallerAction ρ)) (c' : Callers ι ρ),
    e.CallerRun c (actions.map (Prod.mk i)) c' ∧ (∀ a ∈ actions, a.goesOn = true) ∧
    actions.filterMap exchangeOf = xs ∧ actions.getLast? = some (.leave (some result)) ∧
    c'.stage i = .idle ∧ c'.shelf = shelf

variable {xs : List (Exchange ρ)} {result : Except ScriptError PrecompileStatus}
  {shelf : Script.Shelf ρ}

theorem EndsAlone.step (step : e.CallerStep i c a c') (on : a.goesOn = true)
    (h : e.EndsAlone c' i xs result shelf) :
    e.EndsAlone c i ((exchangeOf a).toList ++ xs) result shelf := by
  obtain ⟨actions, c'', hr, ho, hx, hl, hs⟩ := h
  refine ⟨a :: actions, c'', .cons step hr, List.forall_mem_cons.2 ⟨on, ho⟩, ?_, ?_, hs⟩
  · cases ha : exchangeOf a <;> simp [ha, hx]
  · rw [List.getLast?_cons, hl]
    rfl

theorem endsAlone_leaving (h : c.stage i = .leaving job (some result)) :
    e.EndsAlone c i [] result c.shelf :=
  ⟨[_], _, .cons (.leave h) .nil, List.forall_mem_singleton.2 rfl, rfl, rfl,
    Function.update_self .., rfl⟩

theorem endsAlone_asking {request : ScriptRequest} (answer : Outcome (ScriptBuild ρ))
    (h : c.stage i = .asking job request) :
    match codeFrom job.name answer with
    | .ok code => e.EndsAlone c i [.compileScript request answer] (.ok .compiled)
        (c.shelf.insert (job.entry code))
    | .error err => e.EndsAlone c i [.compileScript request answer] (.error err) c.shelf := by
  cases hb : codeFrom job.name answer with
  | ok code =>
    have storing := put_stage_self c i (.storing job code)
    exact .step (.built h hb) rfl
      (.step (.store storing) rfl (endsAlone_leaving (put_stage_self ..)))
  | error err => exact .step (.failed h hb) rfl (endsAlone_leaving (put_stage_self ..))

theorem endsAlone_resolving (s : EngineState φ σ ρ) (h : c.stage i = .resolving job) :
    match e.traced.compileScript job.name job.source job.imports s.traceStart with
    | (.ok code, s') => e.EndsAlone c i s'.service.exchanges (.ok .compiled)
        (c.shelf.insert (job.entry code))
    | (.error err, s') => e.EndsAlone c i s'.service.exchanges (.error err) c.shelf := by
  have ha := (e.compileScript_answer job.name job.source job.imports s).2
  cases hc : e.traced.compileScript job.name job.source job.imports s.traceStart with | mk r s' =>
  rw [hc] at ha
  dsimp only at ha
  rcases ha with ⟨err, -, hx, rfl⟩ | ⟨references, answer, -, hx, hr⟩
  · dsimp only
    rw [hx]
    exact .step (.giveUp err h) rfl (endsAlone_leaving (put_stage_self ..))
  · have asking := e.endsAlone_asking answer (put_stage_self c i
      (.asking job (e.scriptRequest job.name job.source job.imports
        (e.scriptLibraries references s))))
    rw [← hr] at asking
    cases r with
    | ok code =>
      dsimp only
      rw [hx]
      exact .step (.ask (e.scriptLibraries references s) h) rfl asking
    | error err =>
      dsimp only
      rw [hx]
      exact .step (.ask (e.scriptLibraries references s) h) rfl asking

/-- A caller whom nobody interrupts and whose key is free does just what `precompile` does. -/
theorem endsAlone_precompile (s : EngineState φ σ ρ) (h : c.stage i = .arriving job)
    (free : job.key ∉ c.compiling) (same : c.shelf = s.scripts) :
    e.EndsAlone c i (e.precompileExchanges job.name job.source job.imports s)
      (e.precompile job.name job.source job.imports s).1
      (e.precompile job.name job.source job.imports s).2.scripts := by
  have checking : ((c.hold job.key).put i (.checking job)).stage i = .checking job :=
    put_stage_self ..
  rw [precompile_traced, Prod.map_fst, Prod.map_snd, EngineState.map_scripts, id_eq]
  unfold precompileExchanges
  cases held : c.shelf.holds job.name job.hash with
  | true =>
    have here := held
    rw [same] at here
    rw [precompile_cached (s := s.traceStart) here]
    rw [show s.traceStart.scripts = c.shelf from same.symm]
    exact .step (.take h free) rfl (.step (.hit checking held) rfl
      (endsAlone_leaving (put_stage_self ..)))
  | false =>
    have here := held
    rw [same] at here
    have hs := (e.compileScript_answer job.name job.source job.imports s).1
    cases hc : e.traced.compileScript job.name job.source job.imports s.traceStart with | mk r s' =>
    have resolving := e.endsAlone_resolving s
      (put_stage_self ((c.hold job.key).put i (.checking job)) i (.resolving job))
    rw [hc] at hs resolving
    dsimp only at hs
    cases r with
    | error err =>
      rw [precompile_failed (s := s.traceStart) here hc, hs, ← same]
      exact .step (.take h free) rfl (.step (.miss checking held) rfl resolving)
    | ok code =>
      rw [precompile_compiled (s := s.traceStart) here hc]
      dsimp only
      rw [hs, ← same]
      exact .step (.take h free) rfl (.step (.miss checking held) rfl resolving)

/-- In the same way it does just what `recompile` does. -/
theorem endsAlone_recompile (s : EngineState φ σ ρ) (h : c.stage i = .evicting job)
    (free : job.key ∉ c.compiling) (same : c.shelf = s.scripts) :
    e.EndsAlone c i
      (e.precompileExchanges job.name job.source job.imports
        { s with scripts := s.scripts.erase job.name })
      (e.recompile job.name job.source job.imports s).1
      (e.recompile job.name job.source job.imports s).2.scripts := by
  have arriving := put_stage_self { c with shelf := c.shelf.erase job.name } i (.arriving job)
  exact .step (.evict h) rfl (endsAlone_precompile { s with scripts := s.scripts.erase job.name }
    arriving free (congrArg (Script.Shelf.erase · job.name) same))

end PluginForge.Engine
