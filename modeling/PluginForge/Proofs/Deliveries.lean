/-
What comes of the groups of a build that no call changing the file system fails in. The outcome of a
group, and what is written for it, then follow from its compile and the time of its report alone. So
such a build is told whole by its intake, its references and a `Delivery` for each of its groups.
-/
import PluginForge.Proofs.Abandoned
import PluginForge.Proofs.Determinism
import PluginForge.Proofs.Recording

namespace PluginForge

variable {φ σ ρ : Type}

/-! ## One group -/

/-- A group with the time of its report, the attempts at it and the end of its compile. -/
structure Delivery where
  group : CompilationGroup
  time : TimeStamp
  attempts : List Attempt
  result : Except ServiceError GroupCompile

namespace Delivery

/-- The outcome of the group, if its artifacts or its log can be written. -/
def outcome (w : Workspace) (d : Delivery) : GroupOutcome :=
  match d.result with
  | .error err =>
    { GroupOutcome.start d.group with
      stopReason := some .serviceFailure
      message := some err.message }
  | .ok c =>
    if c.output.success then
      { GroupOutcome.ofCompile d.group c with
        success := true
        artifacts := (Artifact.ofOutput w.outputDir d.group.key c.output).map Prod.fst }
    else
      { GroupOutcome.ofCompile d.group c with
        log := some (w.logsDir.join (logFileName d.group.key d.time)) }

/-- What is then done on the file system for the group. -/
def changes (w : Workspace) (style : Report.LogStyle) (d : Delivery) : List StoreChange :=
  match d.result with
  | .error _ => []
  | .ok c =>
    if c.output.success then
      .makeDir w.outputDir (.ok ()) ::
        (Artifact.ofOutput w.outputDir d.group.key c.output).map StoreChange.written
    else
      [.makeDir w.logsDir (.ok ()),
        .write (w.logsDir.join (logFileName d.group.key d.time))
          (Encoding.toUtf8 (Report.renderLog style d.group.displayName c.output.diagnostics d.time))
          (.ok ())]

/-- The attempts are those at the group, compiled against some references. -/
def Runs (settings : Settings) (references : List Path) (d : Delivery) : Prop :=
  GroupCompile.Run settings.retryCount.toNat 0 0
    (d.group.request settings.languageVersion references) d.attempts d.result

theorem outcome_key (w : Workspace) (d : Delivery) : (d.outcome w).key = d.group.key := by
  unfold outcome
  split
  · rfl
  · split <;> rfl

end Delivery

/-! ## Changes that succeed -/

theorem FileSystem.Did.state {fs : FileSystem φ} {s s' : FileSystem.Recorded φ}
    {changes : List StoreChange} (h : fs.recorded.Did s changes s') :
    fs.Did s.state changes s'.state := by
  induction h with
  | nil => exact .nil
  | cons first _ ih =>
    refine .cons ?_ ih
    cases first with
    | write h => exact .write (congrArg (Prod.map id FileSystem.Recorded.state) h)
    | remove h => exact .remove (congrArg (Prod.map id FileSystem.Recorded.state) h)
    | makeDir h => exact .makeDir (congrArg (Prod.map id FileSystem.Recorded.state) h)

/-- Where all changes have succeeded so far, so have the last ones. -/
theorem FileSystem.Did.succeeds {fs : FileSystem φ} {s s' : FileSystem.Recorded φ}
    {changes : List StoreChange} (h : fs.recorded.Did s changes s')
    (hs : ∀ c ∈ s'.changes, c.succeeds = true) : ∀ c ∈ changes, c.succeeds = true := by
  rw [h.recorded] at hs
  exact (List.forall_mem_append.1 hs).2

/-- The log of a group is written, or a call fails. -/
theorem FailureLog.write_cases {fs : FileSystem φ} {style : Report.LogStyle} {dir : Path}
    {key name : String} {ds : List Diagnostic} {t : TimeStamp} {files files' : φ}
    {r : Except StoreError Path}
    (h : write fs style dir key name ds t files = (r, files')) :
    (r = .ok (dir.join (logFileName key t)) ∧
      fs.Did files [.makeDir dir (.ok ()), .write (dir.join (logFileName key t))
        (Encoding.toUtf8 (Report.renderLog style name ds t)) (.ok ())] files') ∨
      ∃ changes, fs.Did files changes files' ∧ ∃ c ∈ changes, c.succeeds = false := by
  unfold write at h
  generalize Encoding.toUtf8 (Report.renderLog style name ds t) = content at h ⊢
  cases hm : fs.makeDir dir files with | mk r₁ files₁ =>
  rw [hm] at h
  cases r₁ with
  | error err =>
    cases h
    exact .inr ⟨_, (FileSystem.Does.makeDir hm).did, _, List.mem_singleton_self _, rfl⟩
  | ok u =>
    dsimp only at h
    cases hw : fs.write (dir.join (logFileName key t)) content files₁ with | mk r₂ files₂ =>
    have did := FileSystem.Did.cons (.makeDir hm) (FileSystem.Does.write hw).did
    rw [hw] at h
    cases r₂ with
    | ok u =>
      cases h
      exact .inl ⟨rfl, did⟩
    | error err =>
      cases h
      exact .inr ⟨_, did, _, List.mem_cons_of_mem _ (List.mem_singleton_self _), rfl⟩

namespace Engine

variable {fs : FileSystem φ} {e : Engine (FileSystem.Recorded φ) σ ρ} (he : e.store = fs.recorded)

include he

theorem writeArtifacts_delivers {output : EmitOutput} {o : GroupOutcome}
    {s s' : EngineState (FileSystem.Recorded φ) σ ρ} {o' : GroupOutcome}
    (h : e.writeArtifacts output o s = (o', s'))
    (succeed : ∀ c ∈ s'.files.changes, c.succeeds = true) :
    o' = { o with
      success := true
      artifacts := (Artifact.ofOutput e.workspace.outputDir o.key output).map Prod.fst } ∧
      fs.recorded.Did s.files (.makeDir e.workspace.outputDir (.ok ()) ::
        (Artifact.ofOutput e.workspace.outputDir o.key output).map StoreChange.written) s'.files := by
  unfold writeArtifacts at h
  rw [he] at h
  cases hw : Artifact.write fs.recorded e.workspace.outputDir o.key output s.files with | mk r files =>
  rw [hw] at h
  have did := Artifact.write_did hw
  cases r with
  | ok artifacts =>
    cases h
    obtain ⟨rfl, did⟩ := did
    exact ⟨rfl, did⟩
  | error err =>
    cases h
    exfalso
    rcases did with did | ⟨xs, a, ys, -, did⟩
    · have := did.succeeds succeed _ (List.mem_singleton_self _)
      cases this
    · have := did.succeeds succeed (.write a.1 a.2 (.error err)) (by simp)
      cases this

theorem writeLog_delivers {name : String} {t : TimeStamp} {o : GroupOutcome}
    {s s' : EngineState (FileSystem.Recorded φ) σ ρ} {o' : GroupOutcome}
    (h : e.writeLog name t o s = (o', s'))
    (succeed : ∀ c ∈ s'.files.changes, c.succeeds = true) :
    o' = { o with log := some (e.workspace.logsDir.join (logFileName o.key t)) } ∧
      fs.recorded.Did s.files [.makeDir e.workspace.logsDir (.ok ()),
        .write (e.workspace.logsDir.join (logFileName o.key t))
          (Encoding.toUtf8 (Report.renderLog e.logStyle name o.diagnostics t)) (.ok ())]
        s'.files := by
  unfold writeLog at h
  rw [he] at h
  cases hw : FailureLog.write fs.recorded e.logStyle e.workspace.logsDir o.key name o.diagnostics t
    s.files with | mk r files =>
  rw [hw] at h
  rcases FailureLog.write_cases hw with ⟨rfl, did⟩ | ⟨changes, did, c, hc, failed⟩
  · cases h
    exact ⟨rfl, did⟩
  · have all : ∀ c ∈ files.changes, c.succeeds = true := by cases r <;> cases h <;> exact succeed
    rw [did.succeeds all c hc] at failed
    cases failed

/-- What is reported and written for a group follows from its compile. -/
theorem buildGroup_delivers {references : List Path} {t : TimeStamp} {g : CompilationGroup}
    {s s' : EngineState (FileSystem.Recorded φ) σ ρ} {o : GroupOutcome}
    (h : e.buildGroup references t g s = (.ok o, s'))
    (succeed : ∀ c ∈ s'.files.changes, c.succeeds = true) (as : List Attempt) :
    o = Delivery.outcome e.workspace ⟨g, t, as, (e.compileGroup references g s).1⟩ ∧
      fs.recorded.Did s.files
        (Delivery.changes e.workspace e.logStyle ⟨g, t, as, (e.compileGroup references g s).1⟩)
        s'.files := by
  have same : (e.compileGroup references g s).2.files = s.files := rfl
  unfold buildGroup at h
  generalize e.compileGroup references g s = r at h same ⊢
  obtain ⟨r, s₁⟩ := r
  dsimp only at same
  rw [← same]
  unfold Delivery.outcome Delivery.changes
  cases r with
  | error err =>
    dsimp only at h
    split at h
    · cases h
    · cases h
      exact ⟨rfl, .nil⟩
  | ok c =>
    dsimp only at h ⊢
    cases hc : c.output.success with
    | true =>
      cases hw : e.writeArtifacts c.output (.ofCompile g c) s₁ with | mk o' s₂ =>
      rw [hc, if_pos rfl, hw] at h
      cases h
      exact writeArtifacts_delivers he hw succeed
    | false =>
      cases hw : e.writeLog g.displayName t (.ofCompile g c) s₁ with | mk o' s₂ =>
      rw [hc, if_neg Bool.false_ne_true, hw] at h
      cases h
      exact writeLog_delivers he hw succeed

end Engine

/-! ## Whole builds -/

section

variable {fs : FileSystem φ} {settings : Settings} {files : FileSystem.Recorded φ}

/-- Files are taken in alike whether or not changes are recorded. -/
theorem Intake.FileIntake.state {p : Path} {xs : List (Exchange ρ)}
    {r : Except ServiceError FileOutcome} (h : FileIntake fs.recorded settings files p xs r) :
    FileIntake fs settings files.state p xs r := by
  cases h with
  | unread hu => exact .unread hu
  | empty hu => exact .empty hu
  | blank hu hb => exact .blank hu hb
  | text hu hb hp => exact .text hu hb hp

theorem Intake.Taken.state {paths : List Path} {xs : List (Exchange ρ)}
    {r : Except ServiceError IntakeReport} (h : Taken fs.recorded settings files paths xs r) :
    Taken fs settings files.state paths xs r := by
  induction h with
  | nil => exact .nil
  | next hf ho _ ih => exact .next hf.state ho ih
  | outOfMemory hf ho => exact .outOfMemory hf.state ho

end

namespace Engine

variable {e : Engine φ σ ρ}

theorem Builds.delivers {references : List Path} {clock : Nat → TimeStamp} {index : Nat}
    {groups : List CompilationGroup}
    {s s' : EngineState (FileSystem.Recorded φ) (Traced σ ρ) ρ} {outcomes : List GroupOutcome}
    (h : e.recorded.traced.Builds references clock index groups s outcomes none s')
    (succeed : ∀ c ∈ s'.files.changes, c.succeeds = true) :
    ∃ ds : List Delivery, ds.map Delivery.group = groups ∧
      (∀ d ∈ ds, d.Runs e.settings references) ∧
      outcomes = ds.map (Delivery.outcome e.workspace) ∧
      s'.service.exchanges =
        s.service.exchanges ++ (ds.flatMap Delivery.attempts).map Attempt.exchange ∧
      e.store.recorded.Did s.files (ds.flatMap (Delivery.changes e.workspace e.logStyle))
        s'.files := by
  generalize hn : (none : Option ServiceError) = stop at h
  induction h with
  | done => exact ⟨[], rfl, by simp, rfl, (List.append_nil _).symm, .nil⟩
  | @next index g rest s o s₁ _ _ s' built others ih =>
    have earlier : ∀ c ∈ s₁.files.changes, c.succeeds = true := by
      obtain ⟨made, -, did⟩ := others.made
      rw [did.recorded] at succeed
      exact (List.forall_mem_append.1 succeed).1
    obtain ⟨as, hx, run⟩ := e.recorded.buildGroup_run references (clock index) g s
    obtain ⟨ho, did⟩ := buildGroup_delivers (e := e.recorded.traced) rfl built earlier as
    obtain ⟨ds, hg, runs, houtcomes, hxs, dids⟩ := ih succeed hn
    rw [built] at hx
    refine ⟨⟨g, clock index, as, _⟩ :: ds, by rw [List.map_cons, hg],
      List.forall_mem_cons.2 ⟨run, runs⟩, by rw [List.map_cons, ← houtcomes, ho]; rfl, ?_,
      did.append dids⟩
    rw [hxs, hx, List.flatMap_cons, List.map_append, List.append_assoc]
  | ended => cases hn

/-- The files once a build has taken its references. -/
def opened (e : Engine φ σ ρ) (s : EngineState φ σ ρ) : φ :=
  (Reference.getOrResolve e.store e.settings e.roots s.references (e.cleared s)).2.2

/-- The files after a build with a report, when its groups have left them so. -/
def leftAfter (e : Engine φ σ ρ) (report : BuildReport) (files : φ) : φ :=
  if report.allSucceeded && e.settings.clearLogsOnSuccess then
    (FailureLog.clear e.store e.workspace.logsDir files).2
  else files

/-- A build that takes in some sources and delivers their groups: what it reports, what passes to
and from the compiler, and what it leaves. -/
structure Delivers (e : Engine φ σ ρ) (root : Path) (s : EngineState φ σ ρ) (report : BuildReport)
    (xs : List (Exchange ρ)) (left : φ) (paths : List Path) (parses : List (Exchange ρ))
    (intake : IntakeReport) (references : List Path) (ds : List Delivery) : Prop where
  listed : e.store.list root Intake.sourceExtension e.settings.includeSubdirectories
    (e.cleared s) = .ok paths
  parsed : Intake.Taken e.store e.settings (e.cleared s) paths parses (.ok intake)
  taken : e.intake root s = .ok intake
  some : intake.units ≠ []
  resolves : e.referenceSet s = .ok references
  groups : ds.map Delivery.group =
    CompilationGroup.partition e.settings.pluginBaseType intake.units
  runs : ∀ d ∈ ds, d.Runs e.settings references
  reports : report =
    ⟨intake.units.length, intake.skipped, ds.map (Delivery.outcome e.workspace)⟩
  exchanges : xs = parses ++ (ds.flatMap Delivery.attempts).map Attempt.exchange
  leaves : ∃ files, e.store.Did (e.opened s)
    (ds.flatMap (Delivery.changes e.workspace e.logStyle)) files ∧ left = e.leftAfter report files

theorem files_settleLogs (e : Engine φ σ ρ) (report : BuildReport) (s : EngineState φ σ ρ) :
    (e.settleLogs (.ok report) s).files = e.leftAfter report s.files := by
  unfold settleLogs leftAfter
  dsimp only
  split <;> rfl

theorem leftAfter_tidies (e : Engine φ σ ρ) (report : BuildReport) (files : φ) :
    e.store.Tidies files (e.leftAfter report files) := by
  unfold leftAfter
  split
  · exact FailureLog.clear_tidies _ _
  · exact .refl

theorem leftAfter_recorded (e : Engine φ σ ρ) (report : BuildReport)
    (files : FileSystem.Recorded φ) :
    (e.recorded.leftAfter report files).state = e.leftAfter report files.state := by
  have same := FailureLog.clear_simulates e.store.recorded_simulates e.workspace.logsDir files
  by_cases hc : (report.allSucceeded && e.settings.clearLogsOnSuccess) = true
  · have cleared : e.leftAfter report files.state =
        (FailureLog.clear e.store e.workspace.logsDir files.state).2 := if_pos hc
    rw [leftAfter, recorded_settings, if_pos hc, cleared, same]
    rfl
  · have kept : e.leftAfter report files.state = files.state := if_neg hc
    rw [leftAfter, recorded_settings, if_neg hc, kept]

/-- The build with a note of its exchanges and a record of its changes. -/
theorem buildDir_recorded_traced (e : Engine φ σ ρ) (root : Path) (clock : Nat → TimeStamp)
    (s : EngineState φ σ ρ) :
    (e.recorded.traced.buildDir root clock s.recordStart.traceStart).1 =
        (e.buildDir root clock s).1 ∧
      (e.recorded.traced.buildDir root clock s.recordStart.traceStart).2.files.state =
        (e.buildDir root clock s).2.files ∧
      (e.recorded.traced.buildDir root clock s.recordStart.traceStart).2.files.changes =
        e.changes root clock s ∧
      (e.recorded.traced.buildDir root clock s.recordStart.traceStart).2.service.exchanges =
        e.exchanges root clock s := by
  have same := e.buildDir_recorded root clock s
  rw [e.recorded.buildDir_traced] at same
  exact ⟨congrArg Prod.fst same.symm, congrArg (fun p => p.2.files) same.symm,
    e.changes_traced root clock s, e.exchanges_recorded root clock s⟩

/-- A report, with its groups, and the success of all changes, from one look at a build. -/
theorem exists_report_recorded (e : Engine φ σ ρ) (root : Path) (clock : Nat → TimeStamp)
    (s : EngineState φ σ ρ) {α : Type} (f : GroupOutcome → α) (as : List α)
    (h : (fun b : Except BuildFailure BuildReport × EngineState (FileSystem.Recorded φ) σ ρ =>
      (b.1.toOption.map (·.groups.map f), b.2.files.changes.all StoreChange.succeeds))
        (e.recorded.buildDir root clock s.recordStart) = (some as, true)) :
    ∃ report, (e.buildDir root clock s).1 = .ok report ∧ report.groups.map f = as ∧
      ∀ c ∈ e.changes root clock s, c.succeeds = true := by
  obtain ⟨hr, hs⟩ := Prod.mk.inj h
  have same := congrArg Prod.fst (e.buildDir_recorded root clock s)
  cases hb : (e.recorded.buildDir root clock s.recordStart).1 with
  | error err =>
    rw [hb] at hr
    cases hr
  | ok report =>
    rw [hb] at hr
    exact ⟨report, same.trans hb, Option.some.inj hr, List.all_eq_true.1 hs⟩

theorem buildDir_delivers {root : Path} {clock : Nat → TimeStamp} {s : EngineState φ σ ρ}
    {report : BuildReport} (h : (e.buildDir root clock s).1 = .ok report)
    (succeed : ∀ c ∈ e.changes root clock s, c.succeeds = true) :
    ∃ paths parses intake references ds,
      e.Delivers root s report (e.exchanges root clock s) (e.buildDir root clock s).2.files paths
        parses intake references ds := by
  obtain ⟨hr, hfiles, hchanges, hx⟩ := e.buildDir_recorded_traced root clock s
  obtain ⟨s', passes, last⟩ := @buildDir_passes _ _ _ e.recorded.traced root clock
    s.recordStart.traceStart (enabled_of_report (hr.trans h))
  rw [hr, h] at passes last
  rw [← hfiles, ← hx]
  rw [← hchanges] at succeed
  -- the last build is forgotten but for what its last state is made of
  have files : (e.recorded.traced.buildDir root clock s.recordStart.traceStart).2.files =
      e.recorded.leftAfter report s'.files := by
    rw [last]
    exact e.recorded.traced.files_settleLogs report s'
  have service : (e.recorded.traced.buildDir root clock s.recordStart.traceStart).2.service =
      s'.service := by
    rw [last]
    exact e.recorded.traced.settleLogs_service (.ok report) s'
  rw [files] at succeed ⊢
  rw [service, leftAfter_recorded]
  have earlier : ∀ c ∈ s'.files.changes, c.succeeds = true := by
    obtain ⟨changes, did, -⟩ := e.recorded.leftAfter_tidies report s'.files
    rw [did.recorded] at succeed
    exact (List.forall_mem_append.1 succeed).1
  cases passes with
  | @reported intake files service references s₁ outcomes _ taken some refs groups =>
    obtain ⟨paths, parses, listed, hp, ht⟩ := Intake.ingest_taken e.recorded.service taken
    obtain rfl := Intake.ingest_files taken
    obtain ⟨ds, hg, runs, rfl, hxs, did⟩ := groups.delivers earlier
    have cleared : (Artifact.clean e.store.recorded e.workspace.outputDir ⟨s.files, []⟩).state =
        e.cleared s :=
      (Artifact.clean_simulates e.store.recorded_simulates e.workspace.outputDir _).symm
    have ingested := Intake.ingest_simulates_store e.store.recorded_simulates e.service.traced
      e.settings root (Artifact.clean e.store.recorded e.workspace.outputDir ⟨s.files, []⟩)
      (.start s.service)
    have looked := Reference.getOrResolve_simulates e.store.recorded_simulates e.settings e.roots
      s.references (Artifact.clean e.store.recorded e.workspace.outputDir ⟨s.files, []⟩)
    rw [cleared] at ingested looked
    refine ⟨paths, parses, intake, references, ds, ?_⟩
    constructor
    case listed =>
      rw [← cleared]
      exact listed
    case parsed =>
      rw [← cleared]
      exact ht.state
    case taken =>
      rw [intake_eq_traced, ingested]
      exact congrArg Prod.fst taken
    case some => exact some
    case resolves =>
      rw [referenceSet, looked]
      exact congrArg Prod.fst refs
    case groups => exact hg
    case runs => exact runs
    case reports => rfl
    case exchanges =>
      rw [hxs, service_of_takeReferences refs]
      exact congrArg (· ++ _) hp
    case leaves =>
      refine ⟨s'.files.state, ?_, rfl⟩
      have files : e.opened s = s₁.files.state := by
        rw [opened, looked]
        exact congrArg (fun p => p.2.files.state) refs
      rw [files]
      exact did.state

end Engine

/-! ## Deliveries of two builds -/

/-- Two outcomes that differ at most in the time in the name of a log. -/
structure GroupOutcome.SameAt (logs : Path) (o o' : GroupOutcome) : Prop where
  rest : { o with log := none } = { o' with log := none }
  log : o.log = none ∧ o'.log = none ∨
    ∃ t t', o.log = some (logs.join (logFileName o.key t)) ∧
      o'.log = some (logs.join (logFileName o'.key t'))

namespace Delivery

variable {d d' : Delivery} {settings : Settings} {references : List Path}
  {emit : EmitRequest → Outcome EmitOutput}

/-- A delivery and itself at another time. -/
def SameAs (d d' : Delivery) : Prop :=
  d' = { d with time := d'.time }

theorem SameAs.outcome (h : SameAs d d') (w : Workspace) :
    (d.outcome w).SameAt w.logsDir (d'.outcome w) := by
  rw [SameAs] at h
  rw [h]
  unfold Delivery.outcome
  cases d.result with
  | error err => exact ⟨rfl, .inl ⟨rfl, rfl⟩⟩
  | ok c =>
    dsimp only
    split
    · exact ⟨rfl, .inl ⟨rfl, rfl⟩⟩
    · exact ⟨rfl, .inr ⟨_, _, rfl, rfl⟩⟩

/-- What comes of a group follows from its sources and the references. -/
theorem Runs.sameAs (h : d.Runs settings references) (h' : d'.Runs settings references)
    (hg : d.group = d'.group) (ha : ∀ a ∈ d.attempts, a.answer = emit a.request)
    (ha' : ∀ a ∈ d'.attempts, a.answer = emit a.request) : SameAs d d' := by
  obtain ⟨g, t, as, r⟩ := d
  obtain ⟨g', t', as', r'⟩ := d'
  obtain rfl : g = g' := hg
  obtain ⟨rfl, rfl⟩ := GroupCompile.Run.unique h h' ha ha'
  rfl

theorem sameAs_of_groups {ds ds' : List Delivery}
    (hg : ds.map Delivery.group = ds'.map Delivery.group)
    (h : ∀ d ∈ ds, d.Runs settings references) (h' : ∀ d ∈ ds', d.Runs settings references)
    (ha : ∀ d ∈ ds, ∀ a ∈ d.attempts, a.answer = emit a.request)
    (ha' : ∀ d ∈ ds', ∀ a ∈ d.attempts, a.answer = emit a.request) :
    List.Forall₂ SameAs ds ds' := by
  induction ds generalizing ds' with
  | nil =>
    cases ds' with
    | nil => exact .nil
    | cons d' rest' => cases hg
  | cons d rest ih =>
    cases ds' with
    | nil => cases hg
    | cons d' rest' =>
      obtain ⟨hd, hrest⟩ := List.cons.inj hg
      obtain ⟨run, runs⟩ := List.forall_mem_cons.1 h
      obtain ⟨run', runs'⟩ := List.forall_mem_cons.1 h'
      obtain ⟨answered, others⟩ := List.forall_mem_cons.1 ha
      obtain ⟨answered', others'⟩ := List.forall_mem_cons.1 ha'
      exact .cons (run.sameAs run' hd answered answered') (ih hrest runs runs' others others')

theorem attempts_of_sameAs {ds ds' : List Delivery} (h : List.Forall₂ SameAs ds ds') :
    ds.flatMap Delivery.attempts = ds'.flatMap Delivery.attempts := by
  induction h with
  | nil => rfl
  | cons hd _ ih =>
    rw [SameAs] at hd
    rw [List.flatMap_cons, List.flatMap_cons, ih, hd]

theorem outcomes_of_sameAs {ds ds' : List Delivery} (h : List.Forall₂ SameAs ds ds')
    (w : Workspace) :
    List.Forall₂ (GroupOutcome.SameAt w.logsDir) (ds.map (Delivery.outcome w))
      (ds'.map (Delivery.outcome w)) := by
  rw [List.forall₂_map_left_iff, List.forall₂_map_right_iff]
  exact h.imp fun d d' hd => hd.outcome w

end Delivery

namespace Engine

variable {e : Engine φ σ ρ}

/-- The answers of a compiler that answers by what is asked. -/
theorem Delivers.answered {root : Path} {s : EngineState φ σ ρ} {report : BuildReport}
    {xs : List (Exchange ρ)} {left : φ} {paths : List Path} {parses : List (Exchange ρ)}
    {intake : IntakeReport} {references : List Path} {ds : List Delivery}
    {parse : SourceFile → LanguageVersion → Outcome SyntaxTree}
    {emit : EmitRequest → Outcome EmitOutput}
    (h : e.Delivers root s report xs left paths parses intake references ds)
    (hx : ∀ x ∈ xs, x.AnsweredBy parse emit) :
    (∀ x ∈ parses, x.AnsweredBy parse emit) ∧
      ∀ d ∈ ds, ∀ a ∈ d.attempts, a.answer = emit a.request := by
  rw [h.exchanges] at hx
  obtain ⟨parsed, emitted⟩ := List.forall_mem_append.1 hx
  refine ⟨parsed, fun d hd a ha => ?_⟩
  exact emitted a.exchange (List.mem_map_of_mem (List.mem_flatMap.2 ⟨d, hd, ha⟩))

end Engine
end PluginForge
