/-
The calls of a build that may change the file system. They are recorded by a file system that makes
the calls of another one and keeps their results, as the exchanges with the compiler are. Recording
changes nothing: a map between the states of two file systems under which their calls are the same
calls carries over to whole builds.
-/
import PluginForge.Proofs.Simulation
import PluginForge.Proofs.StoreChanges

namespace PluginForge

variable {φ ψ σ ρ : Type}

/-! ## File systems -/

namespace FileSystem

/-- Every call on `S` is the same call on `T`, with the states of `S` seen through `f`. -/
structure Simulates (S : FileSystem φ) (T : FileSystem ψ) (f : φ → ψ) : Prop where
  read : ∀ p s, T.read p (f s) = S.read p s
  size : ∀ p s, T.size p (f s) = S.size p s
  list : ∀ dir extension recursive s,
    T.list dir extension recursive (f s) = S.list dir extension recursive s
  isFile : ∀ p s, T.isFile p (f s) = S.isFile p s
  isDir : ∀ p s, T.isDir p (f s) = S.isDir p s
  write : ∀ p content s, T.write p content (f s) = Prod.map id f (S.write p content s)
  remove : ∀ p s, T.remove p (f s) = Prod.map id f (S.remove p s)
  makeDir : ∀ p s, T.makeDir p (f s) = Prod.map id f (S.makeDir p s)

/-- Recording the changes changes nothing. -/
theorem recorded_simulates (fs : FileSystem φ) : fs.recorded.Simulates fs Recorded.state where
  read _ _ := rfl
  size _ _ := rfl
  list _ _ _ _ := rfl
  isFile _ _ := rfl
  isDir _ _ := rfl
  write _ _ _ := rfl
  remove _ _ := rfl
  makeDir _ _ := rfl

end FileSystem

section

variable {S : FileSystem φ} {T : FileSystem ψ} {f : φ → ψ} (h : S.Simulates T f)

include h

theorem FileSystem.removeAll_simulates (paths : List Path) (s : φ) :
    T.removeAll paths (f s) = Prod.map id f (S.removeAll paths s) := by
  induction paths generalizing s with
  | nil => rfl
  | cons p rest ih =>
    unfold removeAll
    rw [h.remove]
    rcases S.remove p s with ⟨r, s'⟩
    cases r with
    | error err => exact ih s'
    | ok u =>
      dsimp only [Prod.map_apply, id_eq]
      rw [ih]
      rfl

theorem FileSystem.removeListed_simulates (dir : Path) (extension : String) (s : φ) :
    T.removeListed dir extension (f s) = Prod.map id f (S.removeListed dir extension s) := by
  unfold removeListed
  rw [h.list]
  cases S.list dir extension false s with
  | ok paths => exact removeAll_simulates h paths s
  | error err => rfl

/-! ## Artifacts and logs -/

namespace Artifact

theorem clean_simulates (dir : Path) (s : φ) : clean T dir (f s) = f (clean S dir s) := by
  unfold clean
  rw [h.isDir]
  split
  · simp only [FileSystem.removeListed_simulates h, Prod.map]
  · simp only [h.makeDir, Prod.map]

theorem writeAll_simulates (artifacts : List (Path × Bytes)) (s : φ) :
    writeAll T artifacts (f s) = Prod.map id f (writeAll S artifacts s) := by
  induction artifacts generalizing s with
  | nil => rfl
  | cons a rest ih =>
    obtain ⟨p, bytes⟩ := a
    unfold writeAll
    rw [h.write]
    rcases S.write p bytes s with ⟨r, s'⟩
    cases r with
    | ok u => exact ih s'
    | error err => rfl

theorem write_simulates (dir : Path) (key : String) (output : EmitOutput) (s : φ) :
    write T dir key output (f s) = Prod.map id f (write S dir key output s) := by
  unfold write
  rw [h.makeDir]
  rcases S.makeDir dir s with ⟨r, s'⟩
  cases r with
  | error err => rfl
  | ok u =>
    dsimp only [Prod.map_apply, id_eq]
    rw [writeAll_simulates h]
    rcases writeAll S (ofOutput dir key output) s' with ⟨r, s''⟩
    cases r <;> rfl

end Artifact

namespace FailureLog

theorem write_simulates (style : Report.LogStyle) (dir : Path) (key name : String)
    (ds : List Diagnostic) (t : TimeStamp) (s : φ) :
    write T style dir key name ds t (f s) =
      Prod.map id f (write S style dir key name ds t s) := by
  unfold write
  rw [h.makeDir]
  rcases S.makeDir dir s with ⟨r, s'⟩
  cases r with
  | error err => rfl
  | ok u =>
    dsimp only [Prod.map_apply, id_eq]
    rw [h.write]
    rcases S.write (dir.join (logFileName key t))
      (Encoding.toUtf8 (Report.renderLog style name ds t)) s' with ⟨r, s''⟩
    cases r <;> rfl

theorem clear_simulates (dir : Path) (s : φ) :
    clear T dir (f s) = Prod.map id f (clear S dir s) := by
  unfold clear
  rw [h.isDir]
  split
  · exact FileSystem.removeListed_simulates h dir logExtension s
  · rfl

end FailureLog

/-! ## Intake -/

namespace Intake

variable (service : CompileService σ ρ) (settings : Settings)

omit h in
theorem totalSize_congr {S : FileSystem φ} {T : FileSystem ψ} {files : φ} {files' : ψ}
    {paths : List Path} (h : ∀ p ∈ paths, T.size p files' = S.size p files) :
    totalSize T files' paths = totalSize S files paths := by
  unfold totalSize
  generalize (0 : UInt64) = total
  induction paths generalizing total with
  | nil => rfl
  | cons p rest ih =>
    obtain ⟨first, others⟩ := List.forall_mem_cons.1 h
    rw [List.foldlM_cons, List.foldlM_cons, first]
    cases S.size p files with
    | error err => rfl
    | ok n => exact ih others (total + .ofNat n)

theorem discover_simulates (root : Path) (s : φ) :
    discover T settings root (f s) = Prod.map id f (discover S settings root s) := by
  unfold discover
  rw [h.isDir, h.list, h.makeDir]
  split
  · split
    · rfl
    · rw [totalSize_congr fun p _ => h.size p s]
      split
      · rfl
      · split
        · rfl
        · split <;> rfl
  · rcases S.makeDir root s with ⟨r, s'⟩
    cases r <;> rfl

theorem readUnit_simulates (p : Path) (s : φ) : readUnit T p (f s) = readUnit S p s := by
  unfold readUnit
  rw [h.size, h.read]

omit h in
/-- Sources that are read alike from two file systems are taken in alike. -/
theorem ingestAll_congr {S : FileSystem φ} {T : FileSystem ψ} {files : φ} {files' : ψ}
    {paths : List Path} (h : ∀ p ∈ paths, readUnit T p files' = readUnit S p files)
    (done : IntakeReport) (state : σ) :
    ingestAll T service settings files' done paths state =
      ingestAll S service settings files done paths state := by
  induction paths generalizing done state with
  | nil => rfl
  | cons p rest ih =>
    obtain ⟨first, others⟩ := List.forall_mem_cons.1 h
    have file (state : σ) : ingestFile T service settings files' p state =
        ingestFile S service settings files p state := by
      unfold ingestFile
      rw [first]
    unfold ingestAll
    simp only [file, ih others]

theorem ingest_simulates_store (root : Path) (s : φ) (state : σ) :
    ingest T service settings root (f s) state =
      Prod.map id (Prod.map f id) (ingest S service settings root s state) := by
  unfold ingest
  rw [discover_simulates h]
  rcases discover S settings root s with ⟨r, s'⟩
  cases r with
  | error err => rfl
  | ok paths =>
    dsimp only [Prod.map_apply, id_eq]
    rw [ingestAll_congr service settings fun p _ => readUnit_simulates h p s']

end Intake

/-! ## References -/

namespace Reference

theorem isUsable_simulates (s : φ) : isUsable T (f s) = isUsable S s := by
  funext p
  unfold isUsable
  rw [h.read]

theorem userAssemblies_simulates (dir : Path) (s : φ) :
    userAssemblies T dir (f s) = Prod.map id f (userAssemblies S dir s) := by
  unfold userAssemblies
  rw [h.isDir, h.list, h.makeDir]
  split
  · split <;> rfl
  · rfl

theorem resolve_simulates (settings : Settings) (roots : ReferenceRoots) (s : φ) :
    resolve T settings roots (f s) = Prod.map id f (resolve S settings roots s) := by
  unfold resolve
  rw [userAssemblies_simulates h]
  rcases userAssemblies S roots.assemblies s with ⟨users, s'⟩
  simp only [Prod.map_apply, id_eq, select, isUsable_simulates h, h.isFile]
  split <;> rfl

theorem getOrResolve_simulates (settings : Settings) (roots : ReferenceRoots)
    (kept : Option (List Path)) (s : φ) :
    getOrResolve T settings roots kept (f s) =
      Prod.map id (Prod.map id f) (getOrResolve S settings roots kept s) := by
  cases kept with
  | some paths => rfl
  | none =>
    unfold getOrResolve
    rw [resolve_simulates h]
    rcases resolve S settings roots s with ⟨r, s'⟩
    cases r <;> rfl

end Reference

end

/-! ## Engines -/

/-- The same engine over another file system. -/
def Engine.withStore (e : Engine φ σ ρ) (T : FileSystem ψ) : Engine ψ σ ρ where
  settings := e.settings
  workspace := e.workspace
  roots := e.roots
  store := T
  service := e.service
  extraAssemblies := e.extraAssemblies

/-- A state with the files seen through `f`. -/
def EngineState.mapFiles (f : φ → ψ) (s : EngineState φ σ ρ) : EngineState ψ σ ρ where
  files := f s.files
  service := s.service
  references := s.references
  phases := s.phases
  scripts := s.scripts

@[simp] theorem EngineState.mapFiles_files (f : φ → ψ) (s : EngineState φ σ ρ) :
    (s.mapFiles f).files = f s.files := rfl

@[simp] theorem EngineState.mapFiles_service (f : φ → ψ) (s : EngineState φ σ ρ) :
    (s.mapFiles f).service = s.service := rfl

@[simp] theorem EngineState.mapFiles_references (f : φ → ψ) (s : EngineState φ σ ρ) :
    (s.mapFiles f).references = s.references := rfl

@[simp] theorem EngineState.mapFiles_enter (f : φ → ψ) (s : EngineState φ σ ρ) (p : Phase) :
    (s.enter p).mapFiles f = (s.mapFiles f).enter p := rfl

namespace Engine

section

variable (e : Engine φ σ ρ) (T : FileSystem ψ)

@[simp] theorem withStore_settings : (e.withStore T).settings = e.settings := rfl

@[simp] theorem withStore_workspace : (e.withStore T).workspace = e.workspace := rfl

@[simp] theorem withStore_roots : (e.withStore T).roots = e.roots := rfl

@[simp] theorem withStore_store : (e.withStore T).store = T := rfl

@[simp] theorem withStore_service : (e.withStore T).service = e.service := rfl

@[simp] theorem withStore_logStyle : (e.withStore T).logStyle = e.logStyle := rfl

end

variable {e : Engine φ σ ρ} {T : FileSystem ψ} {f : φ → ψ} (h : e.store.Simulates T f)

include h

theorem takeReferences_simulates_store (s : EngineState φ σ ρ) :
    (e.withStore T).takeReferences (s.mapFiles f) =
      Prod.map id (EngineState.mapFiles f) (e.takeReferences s) := by
  simp only [takeReferences, withStore_store, withStore_settings, withStore_roots,
    EngineState.mapFiles_files, EngineState.mapFiles_references, Reference.getOrResolve_simulates h]
  rfl

theorem writeArtifacts_simulates_store (output : EmitOutput) (o : GroupOutcome)
    (s : EngineState φ σ ρ) :
    (e.withStore T).writeArtifacts output o (s.mapFiles f) =
      Prod.map id (EngineState.mapFiles f) (e.writeArtifacts output o s) := by
  simp only [writeArtifacts, withStore_store, withStore_workspace, EngineState.mapFiles_files,
    Artifact.write_simulates h]
  rcases Artifact.write e.store e.workspace.outputDir o.key output s.files with ⟨r, files⟩
  cases r <;> rfl

theorem writeLog_simulates_store (name : String) (t : TimeStamp) (o : GroupOutcome)
    (s : EngineState φ σ ρ) :
    (e.withStore T).writeLog name t o (s.mapFiles f) =
      Prod.map id (EngineState.mapFiles f) (e.writeLog name t o s) := by
  simp only [writeLog, withStore_store, withStore_workspace, withStore_logStyle,
    EngineState.mapFiles_files, FailureLog.write_simulates h]
  rcases FailureLog.write e.store e.logStyle e.workspace.logsDir o.key name o.diagnostics t s.files
    with ⟨r, files⟩
  cases r <;> rfl

theorem settleLogs_simulates_store (r : Except BuildFailure BuildReport) (s : EngineState φ σ ρ) :
    (e.withStore T).settleLogs r (s.mapFiles f) = (e.settleLogs r s).mapFiles f := by
  cases r with
  | error err => rfl
  | ok report =>
    simp only [settleLogs, withStore_store, withStore_settings, withStore_workspace,
      EngineState.mapFiles_files, FailureLog.clear_simulates h]
    split <;> rfl

theorem buildGroup_simulates_store (references : List Path) (t : TimeStamp) (g : CompilationGroup)
    (s : EngineState φ σ ρ) :
    (e.withStore T).buildGroup references t g (s.mapFiles f) =
      Prod.map id (EngineState.mapFiles f) (e.buildGroup references t g s) := by
  have compile : (e.withStore T).compileGroup references g (s.mapFiles f) =
      Prod.map id (EngineState.mapFiles f) (e.compileGroup references g s) := rfl
  unfold buildGroup
  rw [compile]
  rcases e.compileGroup references g s with ⟨r, s'⟩
  cases r with
  | error err =>
    dsimp only [Prod.map_apply, id_eq]
    split <;> rfl
  | ok c =>
    dsimp only [Prod.map_apply, id_eq]
    rw [writeArtifacts_simulates_store h, writeLog_simulates_store h]
    split <;> rfl

theorem buildGroups_simulates_store (references : List Path) (clock : Nat → TimeStamp)
    (index : Nat) (groups : List CompilationGroup) (s : EngineState φ σ ρ) :
    (e.withStore T).buildGroups references clock index groups (s.mapFiles f) =
      Prod.map id (EngineState.mapFiles f) (e.buildGroups references clock index groups s) := by
  induction groups generalizing index s with
  | nil => rfl
  | cons g rest ih =>
    unfold buildGroups
    rw [buildGroup_simulates_store h]
    rcases e.buildGroup references (clock index) g s with ⟨r, s'⟩
    cases r with
    | error err => rfl
    | ok o =>
      dsimp only [Prod.map_apply, id_eq]
      rw [ih]
      rcases e.buildGroups references clock (index + 1) rest s' with ⟨r, s''⟩
      cases r <;> rfl

theorem buildUnits_simulates_store (clock : Nat → TimeStamp) (report : IntakeReport)
    (s : EngineState φ σ ρ) :
    (e.withStore T).buildUnits clock report (s.mapFiles f) =
      Prod.map id (EngineState.mapFiles f) (e.buildUnits clock report s) := by
  unfold buildUnits
  rw [takeReferences_simulates_store h]
  rcases e.takeReferences s with ⟨r, s'⟩
  cases r with
  | error err => rfl
  | ok references =>
    dsimp only [Prod.map_apply, id_eq]
    rw [withStore_settings, buildGroups_simulates_store h]
    rcases e.buildGroups references clock 0
      (CompilationGroup.partition e.settings.pluginBaseType report.units) s' with ⟨r, s''⟩
    cases r <;> rfl

theorem runCycle_simulates_store (root : Path) (clock : Nat → TimeStamp) (s : EngineState φ σ ρ) :
    (e.withStore T).runCycle root clock (s.mapFiles f) =
      Prod.map id (EngineState.mapFiles f) (e.runCycle root clock s) := by
  simp only [runCycle, ← EngineState.mapFiles_enter, withStore_store, withStore_settings,
    withStore_workspace, withStore_service, EngineState.mapFiles_files,
    EngineState.mapFiles_service, Artifact.clean_simulates h, Intake.ingest_simulates_store h]
  rcases Intake.ingest e.store e.service e.settings root
    (Artifact.clean e.store e.workspace.outputDir (s.enter .ingesting).files)
    (s.enter .ingesting).service with ⟨r, files, service⟩
  cases r with
  | error err => rfl
  | ok report =>
    dsimp only [Prod.map_apply, id_eq]
    cases report.units.isEmpty with
    | true => rfl
    | false =>
      exact buildUnits_simulates_store h clock report { s.enter .ingesting with files, service }

theorem buildDir_simulates_store (root : Path) (clock : Nat → TimeStamp) (s : EngineState φ σ ρ) :
    (e.withStore T).buildDir root clock (s.mapFiles f) =
      Prod.map id (EngineState.mapFiles f) (e.buildDir root clock s) := by
  unfold buildDir
  rw [runCycle_simulates_store h, withStore_settings]
  cases e.settings.enabled with
  | false => rfl
  | true =>
    rcases e.runCycle root clock s with ⟨r, s'⟩
    dsimp only [Prod.map_apply, id_eq, if_true]
    rw [settleLogs_simulates_store h]
    rfl

end Engine

/-! ## What every change keeps up -/

namespace FileSystem

/-- Whatever is changed, `I` holds of the files afterwards if it held before. -/
structure Keeps (fs : FileSystem φ) (I : φ → Prop) : Prop where
  write : ∀ p content s, I s → I (fs.write p content s).2
  remove : ∀ p s, I s → I (fs.remove p s).2
  makeDir : ∀ p s, I s → I (fs.makeDir p s).2

variable {fs : FileSystem φ} {I : φ → Prop}

/-- The file system on the states of which `I` holds. -/
def restrict (fs : FileSystem φ) (h : fs.Keeps I) : FileSystem { s : φ // I s } where
  read := fun p s => fs.read p s.1
  size := fun p s => fs.size p s.1
  list := fun dir extension recursive s => fs.list dir extension recursive s.1
  isFile := fun p s => fs.isFile p s.1
  isDir := fun p s => fs.isDir p s.1
  write := fun p content s =>
    ((fs.write p content s.1).1, ⟨(fs.write p content s.1).2, h.write p content s.1 s.2⟩)
  remove := fun p s => ((fs.remove p s.1).1, ⟨(fs.remove p s.1).2, h.remove p s.1 s.2⟩)
  makeDir := fun p s => ((fs.makeDir p s.1).1, ⟨(fs.makeDir p s.1).2, h.makeDir p s.1 s.2⟩)

theorem restrict_simulates (h : fs.Keeps I) : (fs.restrict h).Simulates fs Subtype.val where
  read _ _ := rfl
  size _ _ := rfl
  list _ _ _ _ := rfl
  isFile _ _ := rfl
  isDir _ _ := rfl
  write _ _ _ := rfl
  remove _ _ := rfl
  makeDir _ _ := rfl

end FileSystem

theorem Artifact.clean_keeps {fs : FileSystem φ} {I : φ → Prop} (h : fs.Keeps I) (dir : Path)
    {s : φ} (hs : I s) : I (clean fs dir s) := by
  have same := clean_simulates (FileSystem.restrict_simulates h) dir ⟨s, hs⟩
  rw [same]
  exact Subtype.property _

/-- What every change of the file system keeps up is kept up by a build. -/
theorem Engine.buildDir_keeps_files {e : Engine φ σ ρ} {I : φ → Prop} (h : e.store.Keeps I)
    (root : Path) (clock : Nat → TimeStamp) {s : EngineState φ σ ρ} (hs : I s.files) :
    I (e.buildDir root clock s).2.files := by
  -- the same build, on the files of which `I` holds
  have same := buildDir_simulates_store (e := e.withStore (e.store.restrict h))
    (FileSystem.restrict_simulates h) root clock
    ⟨⟨s.files, hs⟩, s.service, s.references, s.phases, s.scripts⟩
  have files := congrArg (fun p => p.2.files) same
  change (e.buildDir root clock s).2.files = _ at files
  rw [files]
  exact Subtype.property _

/-- What every change of the file system keeps up is kept up up to the end of a cycle. -/
theorem Engine.runCycle_keeps_files {e : Engine φ σ ρ} {I : φ → Prop} (h : e.store.Keeps I)
    (root : Path) (clock : Nat → TimeStamp) {s : EngineState φ σ ρ} (hs : I s.files) :
    I (e.runCycle root clock s).2.files := by
  have same := runCycle_simulates_store (e := e.withStore (e.store.restrict h))
    (FileSystem.restrict_simulates h) root clock
    ⟨⟨s.files, hs⟩, s.service, s.references, s.phases, s.scripts⟩
  have files := congrArg (fun p => p.2.files) same
  change (e.runCycle root clock s).2.files = _ at files
  rw [files]
  exact Subtype.property _

/-! ## Recording the changes of a build -/

/-- A state in which the changes are recorded from here on. -/
def EngineState.recordStart (s : EngineState φ σ ρ) : EngineState (FileSystem.Recorded φ) σ ρ :=
  s.mapFiles fun files => ⟨files, []⟩

namespace Engine

variable (e : Engine φ σ ρ)

/-- The engine with a record of the calls that may change the file system. -/
def recorded : Engine (FileSystem.Recorded φ) σ ρ :=
  e.withStore e.store.recorded

@[simp] theorem recorded_settings : e.recorded.settings = e.settings := rfl

@[simp] theorem recorded_workspace : e.recorded.workspace = e.workspace := rfl

@[simp] theorem recorded_store : e.recorded.store = e.store.recorded := rfl

/-- The calls of a build that may change the file system, in order. -/
def changes (root : Path) (clock : Nat → TimeStamp) (s : EngineState φ σ ρ) : List StoreChange :=
  (e.recorded.buildDir root clock s.recordStart).2.files.changes

/-- A build goes alike whether or not its changes are recorded. -/
theorem buildDir_recorded (root : Path) (clock : Nat → TimeStamp) (s : EngineState φ σ ρ) :
    e.buildDir root clock s =
      Prod.map id (EngineState.mapFiles FileSystem.Recorded.state)
        (e.recorded.buildDir root clock s.recordStart) :=
  buildDir_simulates_store (e := e.recorded) e.store.recorded_simulates root clock s.recordStart

/-- Recording the changes does not alter the exchanges. -/
theorem exchanges_recorded (root : Path) (clock : Nat → TimeStamp) (s : EngineState φ σ ρ) :
    e.recorded.exchanges root clock s.recordStart = e.exchanges root clock s :=
  congrArg (fun p => p.2.service.exchanges)
    (e.traced.buildDir_recorded root clock s.traceStart).symm

/-- Noting the exchanges does not alter the changes. -/
theorem changes_traced (root : Path) (clock : Nat → TimeStamp) (s : EngineState φ σ ρ) :
    e.traced.changes root clock s.traceStart = e.changes root clock s :=
  congrArg (fun p => p.2.files.changes)
    (e.recorded.buildDir_traced root clock s.recordStart).symm

end Engine
end PluginForge
