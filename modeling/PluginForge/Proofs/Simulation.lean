/-
Builds of engines whose services simulate each other: they answer alike and change their files,
references, phases and scripts alike. For the service that notes its exchanges this says that what
is proved of the exchanges of a build is said of the build itself.
-/
import PluginForge.Engine.Build
import PluginForge.Proofs.Attempts
import PluginForge.Proofs.Exchange

namespace PluginForge

variable {φ σ τ ρ : Type}

/-! ## Intake -/

namespace Intake

variable {S : CompileService σ ρ} {T : CompileService τ ρ} {f : σ → τ} (h : S.Simulates T f)
  (fs : FileSystem φ) (settings : Settings)

include h

theorem parse_simulates (p : Path) (text : String) (s : σ) :
    parse T settings p text (f s) = Prod.map id f (parse S settings p text s) := by
  simp only [parse, h.parse, Prod.map]
  rfl

theorem parseText_simulates (p : Path) (text : String) (s : σ) :
    parseText T settings p text (f s) = Prod.map id f (parseText S settings p text s) := by
  unfold parseText
  rw [parse_simulates h]
  rcases parse S settings p text s with ⟨r, s'⟩
  cases r with
  | error e => rfl
  | ok probe =>
    dsimp only [Prod.map_apply, id_eq]
    split
    · rfl
    · split
      · rfl
      · rw [parse_simulates h]
        rcases parse S settings p
          (Import.addDefaults text probe.importTexts settings.defaultImports) s' with ⟨r, s''⟩
        cases r <;> rfl

theorem ingestFile_simulates (files : φ) (p : Path) (s : σ) :
    ingestFile fs T settings files p (f s) =
      Prod.map id f (ingestFile fs S settings files p s) := by
  unfold ingestFile
  split
  · rfl
  · rfl
  · dsimp only
    split
    · rfl
    · exact parseText_simulates h settings p _ s

theorem ingestAll_simulates (files : φ) (done : IntakeReport) (paths : List Path) (s : σ) :
    ingestAll fs T settings files done paths (f s) =
      Prod.map id f (ingestAll fs S settings files done paths s) := by
  induction paths generalizing done s with
  | nil => rfl
  | cons p rest ih =>
    unfold ingestAll
    rw [ingestFile_simulates h]
    rcases ingestFile fs S settings files p s with ⟨r, s'⟩
    cases r with
    | error e =>
      dsimp only [Prod.map_apply, id_eq]
      split
      · rfl
      · exact ih _ s'
    | ok o => cases o <;> exact ih _ s'

theorem ingest_simulates (root : Path) (files : φ) (s : σ) :
    ingest fs T settings root files (f s) =
      Prod.map id (Prod.map id f) (ingest fs S settings root files s) := by
  unfold ingest
  rcases discover fs settings root files with ⟨r, files'⟩
  cases r with
  | error e => rfl
  | ok paths =>
    dsimp only
    rw [ingestAll_simulates h]
    rfl

omit h in
/-- An intake ends alike whether or not its exchanges are noted. -/
theorem ingest_eq_traced (service : CompileService σ ρ) (root : Path) (files : φ) (s : σ) :
    (ingest fs service settings root files s).1 =
      (ingest fs service.traced settings root files (.start s)).1 :=
  congrArg Prod.fst (ingest_simulates service.traced_simulates fs settings root files (.start s))

end Intake

/-! ## Engines -/

/-- The same engine with another service. -/
def Engine.withService (e : Engine φ σ ρ) (T : CompileService τ ρ) : Engine φ τ ρ where
  settings := e.settings
  workspace := e.workspace
  roots := e.roots
  store := e.store
  service := T
  extraAssemblies := e.extraAssemblies

/-- A state with the service's part seen through `f`. -/
def EngineState.map (f : σ → τ) (s : EngineState φ σ ρ) : EngineState φ τ ρ where
  files := s.files
  service := f s.service
  references := s.references
  phases := s.phases
  scripts := s.scripts

@[simp] theorem EngineState.map_files (f : σ → τ) (s : EngineState φ σ ρ) :
    (s.map f).files = s.files := rfl

@[simp] theorem EngineState.map_service (f : σ → τ) (s : EngineState φ σ ρ) :
    (s.map f).service = f s.service := rfl

@[simp] theorem EngineState.map_enter (f : σ → τ) (s : EngineState φ σ ρ) (p : Phase) :
    (s.enter p).map f = (s.map f).enter p := rfl

namespace Engine

variable (e : Engine φ σ ρ) (T : CompileService τ ρ) (f : σ → τ)

@[simp] theorem withService_settings : (e.withService T).settings = e.settings := rfl

@[simp] theorem withService_workspace : (e.withService T).workspace = e.workspace := rfl

@[simp] theorem withService_store : (e.withService T).store = e.store := rfl

@[simp] theorem withService_service : (e.withService T).service = T := rfl

@[simp] theorem withService_logStyle : (e.withService T).logStyle = e.logStyle := rfl

theorem writeArtifacts_map (output : EmitOutput) (o : GroupOutcome) (s : EngineState φ σ ρ) :
    (e.withService T).writeArtifacts output o (s.map f) =
      Prod.map id (EngineState.map f) (e.writeArtifacts output o s) := by
  simp only [writeArtifacts, withService_store, withService_workspace, EngineState.map_files]
  rcases Artifact.write e.store e.workspace.outputDir o.key output s.files with ⟨r, files⟩
  cases r <;> rfl

theorem writeLog_map (name : String) (t : TimeStamp) (o : GroupOutcome) (s : EngineState φ σ ρ) :
    (e.withService T).writeLog name t o (s.map f) =
      Prod.map id (EngineState.map f) (e.writeLog name t o s) := by
  simp only [writeLog, withService_store, withService_workspace, withService_logStyle,
    EngineState.map_files]
  rcases FailureLog.write e.store e.logStyle e.workspace.logsDir o.key name o.diagnostics t s.files
    with ⟨r, files⟩
  cases r <;> rfl

theorem takeReferences_map (s : EngineState φ σ ρ) :
    (e.withService T).takeReferences (s.map f) =
      Prod.map id (EngineState.map f) (e.takeReferences s) :=
  rfl

theorem settleLogs_map (r : Except BuildFailure BuildReport) (s : EngineState φ σ ρ) :
    (e.withService T).settleLogs r (s.map f) = (e.settleLogs r s).map f := by
  cases r with
  | error err => rfl
  | ok report =>
    by_cases hc : (report.allSucceeded && e.settings.clearLogsOnSuccess) = true
    · have hs : e.settleLogs (.ok report) s =
          { s with files := (FailureLog.clear e.store e.workspace.logsDir s.files).2 } := if_pos hc
      rw [hs]
      exact if_pos hc
    · have hs : e.settleLogs (.ok report) s = s := if_neg hc
      rw [hs]
      exact if_neg hc

variable {e T f} (h : e.service.Simulates T f)

include h

theorem compileGroup_simulates (references : List Path) (g : CompilationGroup)
    (s : EngineState φ σ ρ) :
    (e.withService T).compileGroup references g (s.map f) =
      Prod.map id (EngineState.map f) (e.compileGroup references g s) := by
  have hc := GroupCompile.compileFrom_simulates h e.settings.retryCount.toNat 0 0
    (g.request e.settings.languageVersion references) ⟨s.service, s.phases⟩
  simp only [CompileState.map] at hc
  simp only [compileGroup, CompilationGroup.compile, withService, EngineState.map, hc]
  rfl

theorem buildGroup_simulates (references : List Path) (t : TimeStamp) (g : CompilationGroup)
    (s : EngineState φ σ ρ) :
    (e.withService T).buildGroup references t g (s.map f) =
      Prod.map id (EngineState.map f) (e.buildGroup references t g s) := by
  unfold buildGroup
  rw [compileGroup_simulates h]
  rcases e.compileGroup references g s with ⟨r, s'⟩
  cases r with
  | error err =>
    dsimp only [Prod.map_apply, id_eq]
    split <;> rfl
  | ok c =>
    dsimp only [Prod.map_apply, id_eq]
    split
    · rw [writeArtifacts_map]
      rfl
    · rw [writeLog_map]
      rfl

theorem buildGroups_simulates (references : List Path) (clock : Nat → TimeStamp) (index : Nat)
    (groups : List CompilationGroup) (s : EngineState φ σ ρ) :
    (e.withService T).buildGroups references clock index groups (s.map f) =
      Prod.map id (EngineState.map f) (e.buildGroups references clock index groups s) := by
  induction groups generalizing index s with
  | nil => rfl
  | cons g rest ih =>
    unfold buildGroups
    rw [buildGroup_simulates h]
    rcases e.buildGroup references (clock index) g s with ⟨r, s'⟩
    cases r with
    | error err => rfl
    | ok o =>
      dsimp only [Prod.map_apply, id_eq]
      rw [ih]
      rcases e.buildGroups references clock (index + 1) rest s' with ⟨r, s''⟩
      cases r <;> rfl

theorem buildUnits_simulates (clock : Nat → TimeStamp) (report : IntakeReport)
    (s : EngineState φ σ ρ) :
    (e.withService T).buildUnits clock report (s.map f) =
      Prod.map id (EngineState.map f) (e.buildUnits clock report s) := by
  unfold buildUnits
  rw [takeReferences_map]
  rcases e.takeReferences s with ⟨r, s'⟩
  cases r with
  | error err => rfl
  | ok references =>
    dsimp only [Prod.map_apply, id_eq]
    rw [withService_settings, buildGroups_simulates h]
    rcases e.buildGroups references clock 0
      (CompilationGroup.partition e.settings.pluginBaseType report.units) s' with ⟨r, s''⟩
    cases r <;> rfl

theorem runCycle_simulates (root : Path) (clock : Nat → TimeStamp) (s : EngineState φ σ ρ) :
    (e.withService T).runCycle root clock (s.map f) =
      Prod.map id (EngineState.map f) (e.runCycle root clock s) := by
  simp only [runCycle, ← EngineState.map_enter, withService_store, withService_settings,
    withService_workspace, withService_service, EngineState.map_files, EngineState.map_service]
  rw [Intake.ingest_simulates h]
  rcases Intake.ingest e.store e.service e.settings root
    (Artifact.clean e.store e.workspace.outputDir (s.enter .ingesting).files)
    (s.enter .ingesting).service with ⟨r, files, service⟩
  cases r with
  | error err => rfl
  | ok report =>
    dsimp only [Prod.map_apply, id_eq]
    cases report.units.isEmpty with
    | true => rfl
    | false => exact buildUnits_simulates h clock report { s.enter .ingesting with files, service }

theorem buildDir_simulates (root : Path) (clock : Nat → TimeStamp) (s : EngineState φ σ ρ) :
    (e.withService T).buildDir root clock (s.map f) =
      Prod.map id (EngineState.map f) (e.buildDir root clock s) := by
  unfold buildDir
  rw [runCycle_simulates h, withService_settings]
  cases e.settings.enabled with
  | false => rfl
  | true =>
    rcases e.runCycle root clock s with ⟨r, s'⟩
    dsimp only [Prod.map_apply, id_eq, if_true]
    rw [settleLogs_map]
    rfl

end Engine

/-! ## Noting the exchanges of a build -/

/-- A state in which the exchanges are noted from here on. -/
def EngineState.traceStart (s : EngineState φ σ ρ) : EngineState φ (Traced σ ρ) ρ :=
  s.map .start

namespace Engine

variable (e : Engine φ σ ρ)

/-- The engine with a note of each exchange. -/
def traced : Engine φ (Traced σ ρ) ρ :=
  e.withService e.service.traced

@[simp] theorem traced_settings : e.traced.settings = e.settings := rfl

@[simp] theorem traced_workspace : e.traced.workspace = e.workspace := rfl

@[simp] theorem traced_store : e.traced.store = e.store := rfl

@[simp] theorem traced_service : e.traced.service = e.service.traced := rfl

/-- The exchanges of a build. -/
def exchanges (root : Path) (clock : Nat → TimeStamp) (s : EngineState φ σ ρ) :
    List (Exchange ρ) :=
  (e.traced.buildDir root clock s.traceStart).2.service.exchanges

/-- A build goes alike whether or not its exchanges are noted. -/
theorem buildDir_traced (root : Path) (clock : Nat → TimeStamp) (s : EngineState φ σ ρ) :
    e.buildDir root clock s =
      Prod.map id (EngineState.map Traced.state) (e.traced.buildDir root clock s.traceStart) :=
  buildDir_simulates (e := e.traced) e.service.traced_simulates root clock s.traceStart

end Engine
end PluginForge
