/-
The references that libraries and scripts are compiled against. They are resolved once in a cycle, on
the files as they are at that time, and dropped when the cycle ends, however it ends. So nothing is
ever compiled against a set from an earlier cycle.

The calls of a history are cut into cycles, each with the files on which its references are resolved.
All that passes to and from the compiler in the history passes in its cycles, in order; every cycle
begins with no set kept, and that is what the end of the one before leaves.
-/
import PluginForge.Engine.Upkeep
import PluginForge.Proofs.ScriptHistory
import PluginForge.Proofs.Traffic

namespace PluginForge

variable {φ σ ρ : Type}

/-! ## Cycles -/

/-- What passes to and from the compiler while one reference set may be kept. -/
structure Cycle (φ ρ : Type) where
  /-- The reference set that is kept when the cycle begins. -/
  kept : Option (List Path)
  /-- The files when the references of the cycle are taken. -/
  files : φ
  exchanges : List (Exchange ρ)

/-- Everything in a cycle is compiled against what is resolved on the files of the cycle: libraries
against just that, and scripts also against the extra assemblies that can be loaded. -/
structure Cycle.Fresh (e : Engine φ σ ρ) (c : Cycle φ ρ) : Prop where
  nothingKept : c.kept = none
  libraries : ∀ request answer, .emit request answer ∈ c.exchanges →
    (Reference.resolve e.store e.settings e.roots c.files).1 = .ok request.references
  scripts : ∀ request answer, .compileScript request answer ∈ c.exchanges → ∃ references,
    (Reference.resolve e.store e.settings e.roots c.files).1 = .ok references ∧
      request.references = Reference.withExtra references (Reference.loadablePaths e.store
        (Reference.resolve e.store e.settings e.roots c.files).2 e.extraAssemblies)

/-- A call of an engine, or a change of the files by someone else. -/
inductive EngineCall (φ : Type) where
  | build (clock : Nat → TimeStamp)
  | buildDir (root : Path) (clock : Nat → TimeStamp)
  | script (call : ScriptCall φ)
  | runScriptFile (p : Path) (context : Json) (limit : Nat)
  | cleanSources

namespace Engine

variable (e : Engine φ σ ρ)

/-- The state after a call. -/
def carryOut (s : EngineState φ σ ρ) : EngineCall φ → EngineState φ σ ρ
  | .build clock => (e.build clock s).2
  | .buildDir root clock => (e.buildDir root clock s).2
  | .script call => e.perform s call
  | .runScriptFile p context limit => (e.runScriptFile p context limit s).2
  | .cleanSources => (e.cleanSources s).2

/-- The cycle of a build, whose references are taken after its sources. -/
def buildCycle (root : Path) (clock : Nat → TimeStamp) (s : EngineState φ σ ρ) : Cycle φ ρ :=
  ⟨s.references, (e.intakeFrom root s).2.1, e.exchanges root clock s⟩

/-- The cycle of a request to have a script compiled. -/
def scriptCycle (name source : String) (imports : List String) (s : EngineState φ σ ρ) :
    Cycle φ ρ :=
  ⟨s.references, s.files, e.precompileExchanges name source imports s⟩

/-- The run of a script, as a cycle in which no references are taken. -/
def runStretch (name : String) (context : Json) (limit : Nat) (s : EngineState φ σ ρ) : Cycle φ ρ :=
  ⟨s.references, s.files, e.runExchanges name context limit s⟩

/-- The cycles of the requests for the scripts of some files, as `precompileFiles` makes them. -/
def fileCycles (imports : List String) : List Path → EngineState φ σ ρ → List (Cycle φ ρ)
  | [], _ => []
  | p :: rest, s =>
    match p.stem?, e.readScript p s.files with
    | some name, .ok source =>
      e.scriptCycle name source imports s ::
        fileCycles imports rest (e.precompile name source imports s).2
    | _, _ => fileCycles imports rest s

/-- The cycles of a call about scripts. -/
def scriptCycles (s : EngineState φ σ ρ) : ScriptCall φ → List (Cycle φ ρ)
  | .precompile name source imports => [e.scriptCycle name source imports s]
  | .recompile name source imports =>
    [e.scriptCycle name source imports { s with scripts := s.scripts.erase name }]
  | .precompileDir dir imports => e.fileCycles imports (e.scriptFiles dir s.files) s
  | .run name context limit => [e.runStretch name context limit s]
  | .clear _ => []
  | .change _ => []

/-- The cycles of a call. -/
def cycles (s : EngineState φ σ ρ) : EngineCall φ → List (Cycle φ ρ)
  | .build clock => [e.buildCycle e.workspace.sourceDir clock s]
  | .buildDir root clock => [e.buildCycle root clock s]
  | .script call => e.scriptCycles s call
  | .runScriptFile p context limit =>
    match e.readScript p s.files with
    | .error _ => []
    | .ok source =>
      match e.precompile (scriptName p) source [] s with
      | (.error _, _) => [e.scriptCycle (scriptName p) source [] s]
      | (.ok _, s') =>
        [e.scriptCycle (scriptName p) source [] s, e.runStretch (scriptName p) context limit s']
  | .cleanSources => []

/-- The cycles of calls that are made one after the other. -/
def allCycles : List (EngineCall φ) → EngineState φ σ ρ → List (Cycle φ ρ)
  | [], _ => []
  | c :: rest, s => e.cycles s c ++ allCycles rest (e.carryOut s c)

end Engine

/-! ## One cycle -/

/-- What a library or a script is compiled against in an exchange. -/
def Exchange.references? : Exchange ρ → Option (List Path)
  | .emit request _ => some request.references
  | .compileScript request _ => some request.references
  | .parse .. | .run .. => none

/-- What may pass in a build that takes these references: sources are parsed, and libraries are
compiled against the references. -/
def Exchange.InBuild (references : Except ReferenceError (List Path)) (x : Exchange ρ) : Prop :=
  x.isParse = true ∨ ∃ request answer, x = .emit request answer ∧
    references = .ok request.references

/-- A cycle in which nothing is compiled is fresh. -/
theorem Cycle.fresh_of_references? {e : Engine φ σ ρ} {kept : Option (List Path)} {files : φ}
    {xs : List (Exchange ρ)} (h : kept = none) (hx : ∀ x ∈ xs, x.references? = none) :
    Cycle.Fresh e ⟨kept, files, xs⟩ where
  nothingKept := h
  libraries _ _ hm := nomatch hx _ hm
  scripts _ _ hm := nomatch hx _ hm

namespace Engine

variable {e : Engine φ σ ρ} {s s' : EngineState φ σ ρ}

/-- Where no set is kept, the references are those that are resolved. -/
theorem takeReferences_of_none (h : s.references = none) :
    (e.takeReferences s).1 = (Reference.resolve e.store e.settings e.roots s.files).1 ∧
      (e.takeReferences s).2.files = (Reference.resolve e.store e.settings e.roots s.files).2 := by
  unfold takeReferences Reference.getOrResolve
  rw [h]
  rcases Reference.resolve e.store e.settings e.roots s.files with ⟨r, files⟩
  cases r <;> exact ⟨rfl, rfl⟩

/-! ### Scripts -/

/-- In a request a script is compiled at most once, against the references. -/
theorem precompileExchanges_cases (name source : String) (imports : List String) :
    e.precompileExchanges name source imports s = [] ∨
      ∃ references answer, (e.takeReferences s).1 = .ok references ∧
        e.precompileExchanges name source imports s =
          [.compileScript
            (e.scriptRequest name source imports (e.scriptLibraries references s)) answer] := by
  have asked := (e.compileScript_answer name source imports s).2
  unfold precompileExchanges
  cases held : s.scripts.holds name (Script.contentHash source imports) with
  | true =>
    rw [precompile_cached (s := s.traceStart) held]
    exact .inl rfl
  | false =>
    have same : (e.traced.precompile name source imports s.traceStart).2.service =
        (e.traced.compileScript name source imports s.traceStart).2.service := by
      cases hr : e.traced.compileScript name source imports s.traceStart with | mk r s' =>
      cases r with
      | error err => rw [precompile_failed (s := s.traceStart) held hr]
      | ok code => rw [precompile_compiled (s := s.traceStart) held hr]
    rw [same]
    rcases asked with ⟨_, _, hx, _⟩ | ⟨references, answer, refs, hx, _⟩
    · exact .inl hx
    · exact .inr ⟨references, answer, refs, hx⟩

theorem scriptCycle_fresh (name source : String) (imports : List String)
    (h : s.references = none) : (e.scriptCycle name source imports s).Fresh e := by
  obtain ⟨resolved, files⟩ := @takeReferences_of_none _ _ _ e s h
  unfold scriptCycle
  rcases @precompileExchanges_cases _ _ _ e s name source imports with
    hx | ⟨references, answer, refs, hx⟩
  · rw [hx]
    exact Cycle.fresh_of_references? h fun x hm => absurd hm List.not_mem_nil
  · rw [hx]
    refine ⟨h, fun request answer hm => absurd (List.mem_singleton.1 hm) nofun,
      fun request answer hm => ?_⟩
    obtain ⟨rfl, -⟩ := Exchange.compileScript.inj (List.mem_singleton.1 hm)
    refine ⟨references, resolved.symm.trans refs, ?_⟩
    rw [← files]
    rfl

theorem runStretch_fresh (name : String) (context : Json) (limit : Nat)
    (h : s.references = none) : (e.runStretch name context limit s).Fresh e := by
  have running := (e.run_running name context limit s).1
  refine Cycle.fresh_of_references? h ?_
  generalize e.runExchanges name context limit s = xs at running ⊢
  generalize (e.run name context limit s).1 = r at running
  cases running with
  | absent => exact fun x hm => absurd hm List.not_mem_nil
  | ran => exact List.forall_mem_singleton.2 rfl

/-- However the compile of a script ends, no set is kept after it. -/
theorem references_compileScript (name source : String) (imports : List String) :
    (e.compileScript name source imports s).2.references = none := by
  unfold compileScript
  rcases e.takeReferences s with ⟨r, s'⟩
  cases r <;> rfl

theorem references_precompile (name source : String) (imports : List String)
    (h : s.references = none) : (e.precompile name source imports s).2.references = none := by
  have dropped := @references_compileScript _ _ _ e s name source imports
  unfold precompile
  dsimp only
  split
  · exact h
  · generalize e.compileScript name source imports s = r at dropped ⊢
    obtain ⟨r, s'⟩ := r
    cases r with
    | error err => exact dropped
    | ok code => exact dropped

theorem references_run (name : String) (context : Json) (limit : Nat) :
    (e.run name context limit s).2.references = s.references := by
  unfold run
  cases s.scripts.find? name <;> rfl

theorem fileCycles_fresh (imports : List String) (summary : BatchSummary) (paths : List Path)
    (h : s.references = none) :
    (∀ c ∈ e.fileCycles imports paths s, c.Fresh e) ∧
      (e.precompileFiles imports summary paths s).2.references = none := by
  induction paths generalizing s summary with
  | nil => exact ⟨fun c hc => absurd hc List.not_mem_nil, h⟩
  | cons p rest ih =>
    unfold fileCycles precompileFiles
    cases p.stem? with
    | none => exact ih _ h
    | some name =>
      cases e.readScript p s.files with
      | error err => exact ih _ h
      | ok source =>
        have first := @scriptCycle_fresh _ _ _ e s name source imports h
        have dropped := @references_precompile _ _ _ e s name source imports h
        dsimp only
        generalize e.precompile name source imports s = r at dropped ⊢
        obtain ⟨r, s'⟩ := r
        cases r <;>
          exact ⟨List.forall_mem_cons.2 ⟨first, (ih ⟨0, 0, 0⟩ dropped).1⟩, (ih _ dropped).2⟩

theorem references_precompileDir (dir : Path) (imports : List String) (h : s.references = none) :
    (e.precompileDir dir imports s).2.references = none := by
  rw [precompileDir_snd]
  cases e.store.isDir dir s.files with
  | true => exact (fileCycles_fresh imports _ _ h).2
  | false => exact h

theorem scriptCycles_fresh (call : ScriptCall φ) (h : s.references = none) :
    (∀ c ∈ e.scriptCycles s call, c.Fresh e) ∧ (e.perform s call).references = none := by
  cases call with
  | precompile name source imports =>
    exact ⟨List.forall_mem_singleton.2 (scriptCycle_fresh name source imports h),
      references_precompile name source imports h⟩
  | recompile name source imports =>
    exact ⟨List.forall_mem_singleton.2
        (scriptCycle_fresh (s := { s with scripts := s.scripts.erase name }) name source imports h),
      references_precompile (s := { s with scripts := s.scripts.erase name }) name source imports h⟩
  | precompileDir dir imports =>
    exact ⟨(fileCycles_fresh imports ⟨0, 0, 0⟩ _ h).1, references_precompileDir dir imports h⟩
  | run name context limit =>
    exact ⟨List.forall_mem_singleton.2 (runStretch_fresh name context limit h),
      (references_run name context limit).trans h⟩
  | clear name => exact ⟨fun c hc => absurd hc List.not_mem_nil, h⟩
  | change files => exact ⟨fun c hc => absurd hc List.not_mem_nil, h⟩

/-! ### Builds -/

/-- The intake of a build leaves the same files whether or not its exchanges are noted. -/
theorem intakeFrom_traced (root : Path) :
    e.intakeFrom root s =
      Prod.map id (Prod.map id Traced.state) (e.traced.intakeFrom root s.traceStart) :=
  Intake.ingest_simulates e.service.traced_simulates e.store e.settings root
    (Artifact.clean e.store e.workspace.outputDir s.files) (.start s.service)

theorem Builds.inBuild {references : List Path} {clock : Nat → TimeStamp} {index : Nat}
    {groups : List CompilationGroup} {t t' : EngineState φ (Traced σ ρ) ρ}
    {outcomes : List GroupOutcome} {stop : Option ServiceError}
    (h : e.traced.Builds references clock index groups t outcomes stop t')
    (ht : ∀ x ∈ t.service.exchanges, x.InBuild (.ok references)) :
    ∀ x ∈ t'.service.exchanges, x.InBuild (.ok references) := by
  obtain ⟨runs, hx, hruns⟩ := h.runs
  rw [hx]
  refine List.forall_mem_append.2 ⟨ht, fun x hm => ?_⟩
  obtain ⟨a, ha, rfl⟩ := List.mem_map.1 hm
  obtain ⟨as, has, ha⟩ := List.mem_flatten.1 ha
  obtain ⟨g, -, r, hrun⟩ := hruns as has
  have kept := hrun.forall_request (P := fun r => r.references = references) rfl fun _ _ h => h
  exact .inr ⟨a.request, a.answer, rfl, congrArg Except.ok (kept a ha).symm⟩

theorem Passes.inBuild {root : Path} {clock : Nat → TimeStamp} {r : Except BuildFailure BuildReport}
    {t t' : EngineState φ (Traced σ ρ) ρ} (h : e.traced.Passes root clock t r t')
    (ht : t.service.exchanges = []) :
    ∀ x ∈ t'.service.exchanges, x.InBuild (Reference.getOrResolve e.store e.settings e.roots
      t.references (e.traced.intakeFrom root t).2.1).1 := by
  have opening {r : Except IntakeError IntakeReport} {files : φ} {service : Traced σ ρ}
      {t₁ : EngineState φ (Traced σ ρ) ρ}
      (taken : e.traced.intakeFrom root t = (r, files, service)) (same : t₁.service = service) :
      ∀ refs, ∀ x ∈ t₁.service.exchanges, x.InBuild refs := by
    obtain ⟨paths, xs, _, hx, ht', -⟩ := e.intakeFrom_traffic taken
    rw [same, hx, ht, List.nil_append]
    exact fun refs x hm => .inl (ht'.isParse x hm)
  have refs {r : Except IntakeError IntakeReport} {files : φ} {service : Traced σ ρ}
      {references : List Path} {t₁ : EngineState φ (Traced σ ρ) ρ}
      (taken : e.traced.intakeFrom root t = (r, files, service))
      (refs : e.traced.takeReferences (t.takenIn files service) = (.ok references, t₁)) :
      .ok references = (Reference.getOrResolve e.store e.settings e.roots t.references
        (e.traced.intakeFrom root t).2.1).1 := by
    rw [taken]
    exact (congrArg Prod.fst refs).symm
  cases h with
  | notTaken taken => exact opening taken rfl _
  | noUnits taken => exact opening taken rfl _
  | noReferences taken _ refs => exact opening taken (service_of_takeReferences refs) _
  | stopped taken _ taken' groups =>
    rw [← refs taken taken']
    exact groups.inBuild (opening taken (service_of_takeReferences taken') _)
  | reported taken _ taken' groups =>
    rw [← refs taken taken']
    exact groups.inBuild (opening taken (service_of_takeReferences taken') _)

theorem buildCycle_fresh (root : Path) (clock : Nat → TimeStamp) (h : s.references = none) :
    (e.buildCycle root clock s).Fresh e := by
  unfold buildCycle
  by_cases on : e.settings.enabled = true
  · obtain ⟨s', passes, hx, -⟩ := @buildDir_passes_traced _ _ _ e root clock s on
    have inBuild := passes.inBuild rfl
    have files : (e.traced.intakeFrom root s.traceStart).2.1 = (e.intakeFrom root s).2.1 :=
      (congrArg (fun p => p.2.1) (@intakeFrom_traced _ _ _ e s root)).symm
    have resolved := (@takeReferences_of_none _ _ _ e
      { s with files := (e.intakeFrom root s).2.1 } h).1
    rw [files, ← hx] at inBuild
    refine ⟨h, fun request answer hm => ?_, fun request answer hm => ?_⟩
    · rcases inBuild _ hm with hp | ⟨request', answer', he, refs⟩
      · cases hp
      · cases he
        exact resolved.symm.trans refs
    · rcases inBuild _ hm with hp | ⟨request', answer', he, -⟩
      · cases hp
      · cases he
  · rw [exchanges_of_disabled on]
    exact Cycle.fresh_of_references? h fun x hm => absurd hm List.not_mem_nil

theorem references_buildDir (root : Path) (clock : Nat → TimeStamp) (h : s.references = none) :
    (e.buildDir root clock s).2.references = none := by
  unfold buildDir
  split
  · rfl
  · exact h

/-! ### Calls -/

/-- Removing the sources changes only files. -/
theorem cleanSources_snd (e : Engine φ σ ρ) (s : EngineState φ σ ρ) :
    (e.cleanSources s).2 =
      match e.store.isDir e.workspace.sourceDir s.files,
        e.store.list e.workspace.sourceDir "" true s.files with
      | true, .ok paths => { s with files := (e.store.removeAll paths s.files).2 }
      | true, .error _ => s
      | false, _ => { s with files := (e.store.makeDir e.workspace.sourceDir s.files).2 } := by
  unfold cleanSources
  dsimp only
  cases e.store.isDir e.workspace.sourceDir s.files with
  | true => cases e.store.list e.workspace.sourceDir "" true s.files <;> rfl
  | false =>
    rcases e.store.makeDir e.workspace.sourceDir s.files with ⟨r, files⟩
    cases r <;> rfl

theorem cycles_fresh (call : EngineCall φ) (h : s.references = none) :
    (∀ c ∈ e.cycles s call, c.Fresh e) ∧ (e.carryOut s call).references = none := by
  cases call with
  | build clock =>
    exact ⟨List.forall_mem_singleton.2 (buildCycle_fresh _ clock h), references_buildDir _ clock h⟩
  | buildDir root clock =>
    exact ⟨List.forall_mem_singleton.2 (buildCycle_fresh root clock h),
      references_buildDir root clock h⟩
  | script call => exact scriptCycles_fresh call h
  | runScriptFile p context limit =>
    unfold cycles carryOut runScriptFile
    dsimp only
    cases e.readScript p s.files with
    | error err => exact ⟨fun c hc => absurd hc List.not_mem_nil, h⟩
    | ok source =>
      have first := @scriptCycle_fresh _ _ _ e s (scriptName p) source [] h
      have dropped := @references_precompile _ _ _ e s (scriptName p) source [] h
      dsimp only
      generalize e.precompile (scriptName p) source [] s = r at dropped ⊢
      obtain ⟨r, s'⟩ := r
      cases r with
      | error err => exact ⟨List.forall_mem_singleton.2 first, dropped⟩
      | ok status =>
        refine ⟨List.forall_mem_cons.2 ⟨first, List.forall_mem_singleton.2
          (runStretch_fresh (scriptName p) context limit dropped)⟩, ?_⟩
        exact (references_run (scriptName p) context limit).trans dropped
  | cleanSources =>
    refine ⟨fun c hc => absurd hc List.not_mem_nil, ?_⟩
    show (e.cleanSources s).2.references = none
    rw [cleanSources_snd]
    split <;> exact h

theorem allCycles_fresh (calls : List (EngineCall φ)) (h : s.references = none) :
    (∀ c ∈ e.allCycles calls s, c.Fresh e) ∧ (calls.foldl e.carryOut s).references = none := by
  induction calls generalizing s with
  | nil => exact ⟨fun c hc => absurd hc List.not_mem_nil, h⟩
  | cons call rest ih =>
    obtain ⟨fresh, dropped⟩ := @cycles_fresh _ _ _ e s call h
    obtain ⟨others, last⟩ := ih dropped
    exact ⟨List.forall_mem_append.2 ⟨fresh, others⟩, last⟩

/-! ## Exchanges of calls -/

variable (e) (t : EngineState φ (Traced σ ρ) ρ)

theorem buildDir_exchanges (root : Path) (clock : Nat → TimeStamp) :
    (e.traced.buildDir root clock t).2.service.exchanges =
      t.service.exchanges ++ e.exchanges root clock (t.map Traced.state) := by
  have hs := buildDir_simulates (e := e.traced)
    (e.service.traced_simulates_behind t.service.exchanges) root clock
    (t.map Traced.state).traceStart
  rw [t.map_behind] at hs
  exact congrArg (fun r => r.2.service.exchanges) hs

theorem buildDir_map_state (root : Path) (clock : Nat → TimeStamp) :
    e.buildDir root clock (t.map Traced.state) =
      Prod.map id (EngineState.map Traced.state) (e.traced.buildDir root clock t) :=
  buildDir_simulates (e := e.traced) e.service.traced_simulates root clock t

theorem run_map_state (name : String) (context : Json) (limit : Nat) :
    e.run name context limit (t.map Traced.state) =
      Prod.map id (EngineState.map Traced.state) (e.traced.run name context limit t) :=
  run_simulates (e := e.traced) e.service.traced_simulates name context limit t

theorem fileCycles_exchanges (imports : List String) (paths : List Path)
    (s : EngineState φ σ ρ) :
    (e.fileCycles imports paths s).flatMap Cycle.exchanges =
      (e.submissions imports paths s).flatMap ScriptEvent.exchanges := by
  induction paths generalizing s with
  | nil => rfl
  | cons p rest ih =>
    unfold fileCycles submissions
    cases p.stem? with
    | none => exact ih s
    | some name =>
      cases e.readScript p s.files with
      | error err => exact ih s
      | ok source =>
        dsimp only
        rw [List.flatMap_cons, List.flatMap_cons, ih]
        rfl

theorem scriptCycles_exchanges (call : ScriptCall φ) (s : EngineState φ σ ρ) :
    (e.scriptCycles s call).flatMap Cycle.exchanges =
      (e.events s call).flatMap ScriptEvent.exchanges := by
  cases call with
  | precompileDir dir imports => exact e.fileCycles_exchanges imports _ s
  | precompile | recompile | run | clear | change => rfl

theorem runScriptFile_exchanges (p : Path) (context : Json) (limit : Nat) :
    (e.traced.runScriptFile p context limit t).2.service.exchanges = t.service.exchanges ++
        (e.cycles (t.map Traced.state) (.runScriptFile p context limit)).flatMap Cycle.exchanges ∧
      (e.runScriptFile p context limit (t.map Traced.state)).2 =
        (e.traced.runScriptFile p context limit t).2.map Traced.state := by
  have read : e.traced.readScript p t.files = e.readScript p (t.map Traced.state).files := rfl
  unfold runScriptFile cycles
  dsimp only
  rw [read]
  cases e.readScript p (t.map Traced.state).files with
  | error err => exact ⟨(List.append_nil _).symm, rfl⟩
  | ok source =>
    have hx := e.precompile_exchanges t (scriptName p) source []
    have hm := e.precompile_map_state t (scriptName p) source []
    dsimp only
    rw [hm]
    generalize e.traced.precompile (scriptName p) source [] t = r at hx ⊢
    obtain ⟨r, t'⟩ := r
    cases r with
    | error err => exact ⟨hx.trans (congrArg _ (List.append_nil _).symm), rfl⟩
    | ok status =>
      refine ⟨?_, congrArg Prod.snd (e.run_map_state t' (scriptName p) context limit)⟩
      have hy := e.run_exchanges t' (scriptName p) context limit
      have both : (e.traced.run (scriptName p) context limit t').2.service.exchanges =
          t.service.exchanges ++ (e.precompileExchanges (scriptName p) source []
            (t.map Traced.state) ++ (e.runExchanges (scriptName p) context limit
              (t'.map Traced.state) ++ [])) := by
        rw [hy, hx, List.append_nil, List.append_assoc]
      exact both

theorem cleanSources_map_state :
    (e.traced.cleanSources t).2.service = t.service ∧
      (e.cleanSources (t.map Traced.state)).2 = (e.traced.cleanSources t).2.map Traced.state := by
  rw [cleanSources_snd, cleanSources_snd]
  simp only [traced_store, traced_workspace, EngineState.map_files]
  cases e.store.isDir e.workspace.sourceDir t.files with
  | true => cases e.store.list e.workspace.sourceDir "" true t.files <;> exact ⟨rfl, rfl⟩
  | false => exact ⟨rfl, rfl⟩

/-- What passes to and from the compiler in a call is what passes in its cycles, and noting it changes
nothing. -/
theorem carryOut_exchanges (call : EngineCall φ) :
    (e.traced.carryOut t call).service.exchanges = t.service.exchanges ++
        (e.cycles (t.map Traced.state) call).flatMap Cycle.exchanges ∧
      e.carryOut (t.map Traced.state) call = (e.traced.carryOut t call).map Traced.state := by
  cases call with
  | build clock =>
    exact ⟨(e.buildDir_exchanges t _ clock).trans (congrArg _ (List.append_nil _).symm),
      congrArg Prod.snd (e.buildDir_map_state t _ clock)⟩
  | buildDir root clock =>
    exact ⟨(e.buildDir_exchanges t root clock).trans (congrArg _ (List.append_nil _).symm),
      congrArg Prod.snd (e.buildDir_map_state t root clock)⟩
  | script call =>
    obtain ⟨hx, hs⟩ := e.perform_exchanges t call
    rw [← e.scriptCycles_exchanges] at hx
    exact ⟨hx, hs⟩
  | runScriptFile p context limit => exact e.runScriptFile_exchanges t p context limit
  | cleanSources =>
    obtain ⟨hx, hs⟩ := e.cleanSources_map_state t
    exact ⟨(congrArg Traced.exchanges hx).trans (List.append_nil _).symm, hs⟩

theorem allCycles_exchanges (calls : List (EngineCall φ)) :
    (calls.foldl e.traced.carryOut t).service.exchanges = t.service.exchanges ++
      (e.allCycles calls (t.map Traced.state)).flatMap Cycle.exchanges := by
  induction calls generalizing t with
  | nil => exact (List.append_nil _).symm
  | cons call rest ih =>
    obtain ⟨hx, hs⟩ := e.carryOut_exchanges t call
    rw [allCycles, hs, List.flatMap_append, ← List.append_assoc, ← hx]
    exact ih _

/-- Whatever calls are made with an engine that keeps no references at first, it keeps none after
them, and all that passes to and from the compiler passes in their cycles, in each of which
everything is compiled against the references that are resolved in it. -/
theorem history_fresh (calls : List (EngineCall φ)) (s : EngineState φ σ ρ) :
    (calls.foldl e.carryOut s.dropReferences).references = none ∧
      (calls.foldl e.traced.carryOut s.dropReferences.traceStart).service.exchanges =
        (e.allCycles calls s.dropReferences).flatMap Cycle.exchanges ∧
      ∀ c ∈ e.allCycles calls s.dropReferences, c.Fresh e := by
  obtain ⟨fresh, dropped⟩ := @allCycles_fresh _ _ _ e s.dropReferences calls rfl
  exact ⟨dropped, e.allCycles_exchanges s.dropReferences.traceStart calls, fresh⟩

end Engine
end PluginForge
