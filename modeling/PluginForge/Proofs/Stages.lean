/-
The stages of a build. A build takes in sources, takes references and builds groups one after the
other, and it may end at each of these stages. `Builds` and `Passes` say what was done up to the end,
with the states in between; what holds of a build stage by stage is proved from their cases.
-/
import PluginForge.Proofs.Simulation

namespace PluginForge

/-- The state once the output folder is cleared and the sources are taken in. -/
def EngineState.takenIn {φ σ ρ : Type} (s : EngineState φ σ ρ) (files : φ) (service : σ) :
    EngineState φ σ ρ :=
  { s.enter .ingesting with files, service }

namespace Engine

variable {φ σ ρ : Type} (e : Engine φ σ ρ)

/-! ## Groups -/

variable {e} in
/-- A group that cannot be built leaves the files as they are. -/
theorem files_of_refused {references : List Path} {t : TimeStamp} {g : CompilationGroup}
    {s s' : EngineState φ σ ρ} {err : ServiceError}
    (h : e.buildGroup references t g s = (.error err, s')) : s'.files = s.files := by
  have same : (e.compileGroup references g s).2.files = s.files := rfl
  unfold buildGroup at h
  generalize e.compileGroup references g s = r at h same
  obtain ⟨r, s''⟩ := r
  cases r with
  | error err =>
    dsimp only at h
    split at h
    · cases h
      exact same
    · cases h
  | ok c => cases h

/-- Groups are built one after the other, with these outcomes; the first that cannot be built ends
it, with the failure `stop`. -/
inductive Builds (references : List Path) (clock : Nat → TimeStamp) :
    (index : Nat) → List CompilationGroup → EngineState φ σ ρ → List GroupOutcome →
      (stop : Option ServiceError) → EngineState φ σ ρ → Prop
  | done {index s} : Builds references clock index [] s [] none s
  | next {index g rest s o s' outcomes stop s''}
      (built : e.buildGroup references (clock index) g s = (.ok o, s'))
      (others : Builds references clock (index + 1) rest s' outcomes stop s'') :
      Builds references clock index (g :: rest) s (o :: outcomes) stop s''
  | ended {index g rest s err s'}
      (refused : e.buildGroup references (clock index) g s = (.error err, s')) :
      Builds references clock index (g :: rest) s [] (some err) s'

theorem buildGroups_builds (references : List Path) (clock : Nat → TimeStamp) (index : Nat)
    (groups : List CompilationGroup) (s : EngineState φ σ ρ) :
    ∃ outcomes stop, (e.buildGroups references clock index groups s).1 =
        stop.elim (.ok outcomes) .error ∧
      e.Builds references clock index groups s outcomes stop
        (e.buildGroups references clock index groups s).2 := by
  induction groups generalizing index s with
  | nil => exact ⟨[], none, rfl, .done⟩
  | cons g rest ih =>
    unfold buildGroups
    rcases hg : e.buildGroup references (clock index) g s with ⟨r, s'⟩
    cases r with
    | error err => exact ⟨[], some err, rfl, .ended hg⟩
    | ok o =>
      obtain ⟨outcomes, stop, hr, others⟩ := ih (index + 1) s'
      refine ⟨o :: outcomes, stop, ?_⟩
      dsimp only
      generalize e.buildGroups references clock (index + 1) rest s' = r at hr others ⊢
      obtain ⟨r, s''⟩ := r
      obtain rfl : r = stop.elim (.ok outcomes) .error := hr
      cases stop with
      | none => exact ⟨rfl, .next hg others⟩
      | some err => exact ⟨rfl, .next hg others⟩

/-! ## Cycles -/

variable {e} in
/-- Taking references asks nothing of the service. -/
theorem service_of_takeReferences {s s' : EngineState φ σ ρ}
    {r : Except ReferenceError (List Path)} (h : e.takeReferences s = (r, s')) :
    s'.service = s.service :=
  (congrArg (fun p => p.2.service) h).symm

/-- The intake of a build that starts in the state `s`. -/
def intakeFrom (root : Path) (s : EngineState φ σ ρ) : Except IntakeError IntakeReport × φ × σ :=
  Intake.ingest e.store e.service e.settings root
    (Artifact.clean e.store e.workspace.outputDir s.files) s.service

/-- How far a cycle gets, with its result and the state it ends in. -/
inductive Passes (root : Path) (clock : Nat → TimeStamp) (s : EngineState φ σ ρ) :
    Except BuildFailure BuildReport → EngineState φ σ ρ → Prop
  | notTaken {err files service} (taken : e.intakeFrom root s = (.error err, files, service)) :
      Passes root clock s (.error (.ofIntake err)) (s.takenIn files service)
  | noUnits {intake files service} (taken : e.intakeFrom root s = (.ok intake, files, service))
      (none : intake.units = []) :
      Passes root clock s (.error (.noSources root intake.skipped)) (s.takenIn files service)
  | noReferences {intake files service err s'}
      (taken : e.intakeFrom root s = (.ok intake, files, service)) (units : intake.units ≠ [])
      (refs : e.takeReferences (s.takenIn files service) = (.error err, s')) :
      Passes root clock s (.error (.ofReference err)) s'
  | stopped {intake files service references s' outcomes err s''}
      (taken : e.intakeFrom root s = (.ok intake, files, service)) (units : intake.units ≠ [])
      (refs : e.takeReferences (s.takenIn files service) = (.ok references, s'))
      (groups : e.Builds references clock 0
        (CompilationGroup.partition e.settings.pluginBaseType intake.units) s' outcomes (some err)
        s'') :
      Passes root clock s (.error (.ofService err)) s''
  | reported {intake files service references s' outcomes s''}
      (taken : e.intakeFrom root s = (.ok intake, files, service)) (units : intake.units ≠ [])
      (refs : e.takeReferences (s.takenIn files service) = (.ok references, s'))
      (groups : e.Builds references clock 0
        (CompilationGroup.partition e.settings.pluginBaseType intake.units) s' outcomes none s'') :
      Passes root clock s (.ok ⟨intake.units.length, intake.skipped, outcomes⟩) s''

theorem runCycle_passes (root : Path) (clock : Nat → TimeStamp) (s : EngineState φ σ ρ) :
    e.Passes root clock s (e.runCycle root clock s).1 (e.runCycle root clock s).2 := by
  have taken : e.intakeFrom root s = Intake.ingest e.store e.service e.settings root
      (Artifact.clean e.store e.workspace.outputDir (s.enter .ingesting).files)
      (s.enter .ingesting).service := rfl
  unfold runCycle
  dsimp only
  generalize Intake.ingest e.store e.service e.settings root
    (Artifact.clean e.store e.workspace.outputDir (s.enter .ingesting).files)
    (s.enter .ingesting).service = r at taken ⊢
  obtain ⟨r, files, service⟩ := r
  cases r with
  | error err => exact .notTaken taken
  | ok intake =>
    dsimp only
    split
    · rename_i hu
      exact .noUnits taken (List.isEmpty_iff.1 hu)
    · rename_i hu
      have units : intake.units ≠ [] := fun hn => hu (List.isEmpty_iff.2 hn)
      unfold buildUnits
      rcases refs : e.takeReferences (s.takenIn files service) with ⟨r, s'⟩
      rw [EngineState.takenIn] at refs
      rw [refs]
      cases r with
      | error err => exact .noReferences taken units refs
      | ok references =>
        obtain ⟨outcomes, stop, hr, groups⟩ := e.buildGroups_builds references clock 0
          (CompilationGroup.partition e.settings.pluginBaseType intake.units) s'
        dsimp only
        generalize e.buildGroups references clock 0
          (CompilationGroup.partition e.settings.pluginBaseType intake.units) s' = r at hr groups ⊢
        obtain ⟨r, s''⟩ := r
        obtain rfl : r = stop.elim (.ok outcomes) .error := hr
        cases stop with
        | none => exact .reported taken units refs groups
        | some err => exact .stopped taken units refs groups

/-! ## Builds -/

theorem settleLogs_service (r : Except BuildFailure BuildReport) (s : EngineState φ σ ρ) :
    (e.settleLogs r s).service = s.service := by
  cases r with
  | error err => rfl
  | ok report =>
    unfold settleLogs
    dsimp only
    split <;> rfl

variable {e}

theorem enabled_of_report {root : Path} {clock : Nat → TimeStamp} {s : EngineState φ σ ρ}
    {report : BuildReport} (h : (e.buildDir root clock s).1 = .ok report) :
    e.settings.enabled = true := by
  by_contra off
  rw [buildDir, if_neg off] at h
  cases h

/-- An engine that is switched on goes through a cycle, and settles its logs and its state at the
end. -/
theorem buildDir_passes {root : Path} {clock : Nat → TimeStamp} {s : EngineState φ σ ρ}
    (on : e.settings.enabled = true) :
    ∃ s', e.Passes root clock s (e.buildDir root clock s).1 s' ∧
      (e.buildDir root clock s).2 =
        (e.settleLogs (e.buildDir root clock s).1 s').dropReferences.enter
          (finalPhase (e.buildDir root clock s).1) := by
  have passes := e.runCycle_passes root clock s
  unfold buildDir
  rw [if_pos on]
  exact ⟨_, passes, rfl⟩

/-- An engine that is switched off asks nothing. -/
theorem exchanges_of_disabled {root : Path} {clock : Nat → TimeStamp} {s : EngineState φ σ ρ}
    (off : ¬ e.settings.enabled = true) : e.exchanges root clock s = [] := by
  have off : ¬ e.traced.settings.enabled = true := off
  rw [exchanges, buildDir, if_neg off]
  rfl

/-- The cycle of a build with a note of its exchanges. -/
theorem buildDir_passes_traced {root : Path} {clock : Nat → TimeStamp} {s : EngineState φ σ ρ}
    (on : e.settings.enabled = true) :
    ∃ s', e.traced.Passes root clock s.traceStart (e.buildDir root clock s).1 s' ∧
      e.exchanges root clock s = s'.service.exchanges ∧
      (e.buildDir root clock s).2.files =
        (e.traced.settleLogs (e.buildDir root clock s).1 s').files := by
  obtain ⟨s', passes, last⟩ := @buildDir_passes _ _ _ e.traced root clock s.traceStart on
  rw [buildDir_traced, exchanges, last]
  simp only [Prod.map_fst, Prod.map_snd, id_eq, last]
  refine ⟨s', passes, ?_, rfl⟩
  exact congrArg Traced.exchanges (e.traced.settleLogs_service _ s')

end Engine
end PluginForge
