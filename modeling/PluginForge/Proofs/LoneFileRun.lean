/-
A caller with a script file whom nobody interrupts does what the engine does for a single caller: it
comes to the same result and leaves the same shelf.
-/
import PluginForge.Proofs.FileRuns
import PluginForge.Proofs.LoneCaller

namespace PluginForge.Engine

open Callers

variable {ι φ σ ρ : Type} [DecidableEq ι] {e : Engine φ σ ρ} {i : ι}

section

variable {c c' : Callers ι ρ} {a : CallerAction ρ} {s : TakenStep ι ρ} {taken : List (TakenStep ι ρ)}

/-- Whoever is in no call can only begin one. -/
theorem CallerStep.goesOn_of_idle (h : e.CallerStep i c a c') (idle : c.stage i = .idle) :
    a.goesOn = false := by
  cases h with
  | clear | precompile | recompile => rfl
  | evict hs | wait hs | wake hs | take hs | hit hs | miss hs | giveUp _ hs | ask _ hs | built hs
  | failed hs | store hs | leave hs =>
    rw [idle] at hs
    cases hs
  | unwind hs =>
    rw [idle] at hs
    cases hs

omit [DecidableEq ι] in
theorem map_inFile (mine : ∀ t ∈ taken, t.caller = i) :
    taken.map TakenStep.inFile =
      (taken.map fun t => FileAction.script t.stage t.action).map (Prod.mk i) := by
  rw [List.map_map]
  refine List.map_congr_left fun t ht => ?_
  rw [TakenStep.inFile, mine t ht, Function.comp_apply]

/-- A caller that only goes on gives its key back at most at the end. -/
theorem CallerSteps.stays_of_goesOn (h : e.CallerSteps c (taken ++ [s]) c')
    (mine : ∀ t ∈ taken ++ [s], t.caller = i) (on : ∀ t ∈ taken ++ [s], t.action.goesOn = true) :
    ∀ t ∈ taken, ∀ result, t.action ≠ .leave result := by
  intro t ht result hl
  obtain ⟨xs, ys, rfl⟩ := List.append_of_mem ht
  obtain ⟨u, zs, hu⟩ := List.exists_cons_of_ne_nil (List.concat_ne_nil s ys)
  rw [List.append_assoc, List.cons_append, hu] at h mine on
  obtain ⟨_, -, h⟩ := h.split
  obtain ⟨m, -, left, h⟩ := h.uncons
  obtain ⟨_, -, next, -⟩ := h.uncons
  have idle : m.stage i = .idle := by
    rw [mine t (by simp), hl] at left
    cases left with
    | leave => exact giveBack_stage_self ..
  rw [mine u (by simp)] at next
  have := next.goesOn_of_idle idle
  rw [on u (by simp)] at this
  cases this

end

section

variable {direct : ι → Prop} {c c' : FileRunners ι ρ} {run : FileRun} {source : String}
  {shelf : Script.Shelf ρ}

/-- What a run of a file comes to, by how its script came back from being compiled and what running it
comes to. -/
def fileResult (compiled : Except ScriptError PrecompileStatus) (ran : Except ScriptError Json) :
    Except ScriptFileError Json :=
  match compiled with
  | .error err => .error (.script err)
  | .ok _ => ran.mapError .script

/-- With nobody interrupting, the caller `i` can come to the end of its run of a file: it ends with
`result` and leaves `shelf`. -/
def FinishesAlone (e : Engine φ σ ρ) (direct : ι → Prop) (c : FileRunners ι ρ) (i : ι)
    (result : Except ScriptFileError Json) (shelf : Script.Shelf ρ) : Prop :=
  ∃ (actions : List (FileAction ρ)) (c' : FileRunners ι ρ),
    e.FileSteps direct c ((actions ++ [FileAction.finish (some result)]).map (Prod.mk i)) c' ∧
      c'.stage i = .idle ∧ c'.callers.shelf = shelf

theorem FinishesAlone.steps {result : Except ScriptFileError Json} {actions : List (FileAction ρ)}
    (steps : e.FileSteps direct c (actions.map (Prod.mk i)) c')
    (h : e.FinishesAlone direct c' i result shelf) : e.FinishesAlone direct c i result shelf := by
  obtain ⟨more, c'', run, idle, hs⟩ := h
  refine ⟨actions ++ more, c'', ?_, idle, hs⟩
  rw [List.append_assoc, List.map_append]
  exact steps.append run

theorem FinishesAlone.step {result : Except ScriptFileError Json} {a : FileAction ρ}
    (step : e.FileStep direct i c a c') (h : e.FinishesAlone direct c' i result shelf) :
    e.FinishesAlone direct c i result shelf := by
  have steps : e.FileSteps direct c ([a].map (Prod.mk i)) c' := .cons step .nil
  exact h.steps steps

theorem finishesAlone_returning {result : Except ScriptFileError Json}
    (h : c.stage i = .returning run (some result)) :
    e.FinishesAlone direct c i result c.callers.shelf :=
  ⟨[], _, .cons (.finish h) .nil, file_put_self .., rfl⟩

theorem finishesAlone_looking (s : EngineState φ σ ρ) (h : c.stage i = .looking run source)
    (same : c.callers.shelf = s.scripts) :
    e.FinishesAlone direct c i ((e.run run.name run.context run.limit s).1.mapError .script)
      c.callers.shelf := by
  have looked : e.FileStep direct i c _ _ := .lookUp h
  cases hf : c.callers.shelf.find? run.name with
  | none =>
    rw [hf] at looked
    rw [Engine.run, ← same, hf]
    exact .step looked (finishesAlone_returning (file_put_self ..))
  | some entry =>
    rw [hf] at looked
    rw [Engine.run, ← same, hf]
    exact .step looked (.step (.invoke s.service (file_put_self ..))
      (finishesAlone_returning (file_put_self ..)))

/-- Back from having its script compiled, the caller looks it up, or returns with what went wrong. -/
theorem finishesAlone_compiled (result : Except ScriptError PrecompileStatus)
    (s : EngineState φ σ ρ) (h : c.stage i = .afterCompile run source (.leave (some result)))
    (same : c.callers.shelf = s.scripts) :
    e.FinishesAlone direct c i
      (fileResult result (e.run run.name run.context run.limit s).1) c.callers.shelf := by
  cases result with
  | error err => exact finishesAlone_returning h
  | ok status => exact finishesAlone_looking s h same

/-- The call that has the script compiled, and then the rest of the run. -/
theorem EndsAlone.finishes {xs : List (Exchange ρ)} {result : Except ScriptError PrecompileStatus}
    {shelf' : Script.Shelf ρ} {final : Except ScriptFileError Json}
    (alone : e.EndsAlone (c.callers.put i (.arriving (run.job source))) i xs result shelf)
    (h : c.stage i = .submitting run source) (out : c.callers.stage i = .idle)
    (rest : ∀ callers, callers.shelf = shelf → e.FinishesAlone direct
      ({ c with callers }.put i (.afterCompile run source (.leave (some result)))) i final shelf') :
    e.FinishesAlone direct c i final shelf' := by
  obtain ⟨actions, callers, trace, on, -, last, -, hs⟩ := alone
  obtain ⟨steps, hsteps, acts⟩ := trace.steps
  obtain ⟨actions, rfl⟩ := List.getLast?_eq_some_iff.1 last
  rw [List.map_append] at acts
  obtain ⟨taken, back, rfl, htaken, hback⟩ := List.map_eq_append_iff.1 acts
  obtain ⟨⟨j, st, a⟩, rfl, hlast⟩ := List.map_eq_singleton_iff.1 hback
  obtain ⟨rfl, rfl⟩ := Prod.mk.inj hlast
  rw [List.forall_mem_append, List.forall_mem_singleton] at on
  have mine : ∀ t ∈ taken, t.caller = j ∧ t.action ∈ actions := by
    intro t ht
    have ht := List.mem_map_of_mem (f := TakenStep.act) ht
    rw [htaken] at ht
    obtain ⟨b, hb, he⟩ := List.mem_map.1 ht
    obtain ⟨rfl, rfl⟩ := Prod.mk.inj he
    exact ⟨rfl, hb⟩
  have stays := hsteps.stays_of_goesOn
    (List.forall_mem_append.2 ⟨fun t ht => (mine t ht).1, List.forall_mem_singleton.2 rfl⟩)
    (List.forall_mem_append.2
      ⟨fun t ht => on.1 _ (mine t ht).2, List.forall_mem_singleton.2 on.2⟩)
  have whole : e.CallerSteps c.callers
      (⟨j, .idle, .precompile (run.job source)⟩ :: taken ++ [⟨j, st, .leave (some result)⟩])
      callers := .next out (.precompile (run.job source) ·) hsteps
  have steps : e.FileSteps direct c _ _ := whole.call h fun t ht => ⟨(mine t ht).1, stays t ht⟩
  rw [map_inFile (i := j)] at steps
  · exact (rest callers hs).steps steps
  · rw [List.forall_mem_append, List.forall_mem_cons, List.forall_mem_singleton]
    exact ⟨⟨rfl, fun t ht => (mine t ht).1⟩, rfl⟩

/-- What becomes of a file that can be read is decided by the compile and, after it, by the run. -/
theorem runScriptFile_of_read (s : EngineState φ σ ρ)
    (h : e.readScript run.path s.files = .ok source) :
    (e.runScriptFile run.path run.context run.limit s).1 =
        fileResult (e.precompile run.name source [] s).1
          (e.run run.name run.context run.limit (e.precompile run.name source [] s).2).1 ∧
      (e.runScriptFile run.path run.context run.limit s).2.scripts =
        (e.precompile run.name source [] s).2.scripts := by
  unfold runScriptFile FileRun.name
  rw [h]
  dsimp only
  cases e.precompile (scriptName run.path) source [] s with | mk r s' =>
  cases r with
  | error err => exact ⟨rfl, rfl⟩
  | ok status =>
    refine ⟨rfl, ?_⟩
    dsimp only
    unfold Engine.run
    cases s'.scripts.find? (scriptName run.path) <;> rfl

/-- A caller whom nobody interrupts and whose key is free does just what `runScriptFile` does. -/
theorem finishesAlone_runScriptFile (s : EngineState φ σ ρ) (h : c.stage i = .idle)
    (out : c.callers.stage i = .idle) (free : Script.key run.name ∉ c.callers.compiling)
    (same : c.callers.shelf = s.scripts) :
    e.FinishesAlone direct c i (e.runScriptFile run.path run.context run.limit s).1
      (e.runScriptFile run.path run.context run.limit s).2.scripts := by
  refine .step (.start run h out) ?_
  have reading : (c.put i (.reading run)).stage i = .reading run := file_put_self ..
  have read : e.FileStep direct i (c.put i (.reading run)) _ _ := .read s.files reading
  cases hr : e.readScript run.path s.files with
  | error err =>
    rw [hr] at read
    rw [runScriptFile, hr]
    dsimp only
    rw [← same]
    exact .step read (finishesAlone_returning (file_put_self ..))
  | ok source =>
    rw [hr] at read
    obtain ⟨result, scripts⟩ := runScriptFile_of_read s hr
    rw [result, scripts]
    let c₁ := (c.put i (.reading run)).put i (.submitting run source)
    have arriving : (c₁.callers.put i (.arriving (run.job source))).stage i = _ := put_stage_self ..
    refine .step read ((e.endsAlone_precompile s arriving free same).finishes (c := c₁)
      (file_put_self ..) out fun callers hs => ?_)
    rw [show (e.precompile run.name source [] s).2.scripts = callers.shelf from hs.symm]
    have back := file_put_self { c₁ with callers } i
      (.afterCompile run source (.leave (some (e.precompile run.name source [] s).1)))
    exact finishesAlone_compiled _ (e.precompile run.name source [] s).2 back hs

end

end PluginForge.Engine
