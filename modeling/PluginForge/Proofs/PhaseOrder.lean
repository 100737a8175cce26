/-
The order of the phases. `Phase.Leads` says which phase may come right after which, and every
history of calls keeps to it. The phases of a build are those of its groups between the phase of the
intake and the last one, and a group goes through them attempt by attempt: compiling for the first
and, for each further one, retrying and compiling again, when imports have been removed from its
sources.
-/
import PluginForge.Proofs.Cycles
import PluginForge.Proofs.Leftovers
import PluginForge.Proofs.Retry

namespace PluginForge

variable {φ σ ρ : Type}

/-! ## Phases -/

namespace Phase

/-- The phases in which nothing is being built. -/
def isResting : Phase → Bool
  | .idle | .success | .failed => true
  | .ingesting | .compiling | .retrying => false

/-- Which phase may come right after which; an engine that is switched off only fails. -/
inductive Leads : (on : Bool) → Phase → Phase → Prop
  | begins {p} (resting : p.isResting = true) : Leads true p .ingesting
  | compiles : Leads true .ingesting .compiling
  | refused : Leads true .ingesting .failed
  | retries : Leads true .compiling .retrying
  | again : Leads true .retrying .compiling
  | succeeds : Leads true .compiling .success
  | fails : Leads true .compiling .failed
  | off {p} (h : p = .idle ∨ p = .success) : Leads false p .failed

/-- Phases entered one after the other. -/
def enterAll (phases entered : List Phase) : List Phase :=
  entered.foldl enter phases

theorem enterAll_append (phases entered more : List Phase) :
    enterAll phases (entered ++ more) = enterAll (enterAll phases entered) more :=
  List.foldl_append

theorem head?_enter (phases : List Phase) (p : Phase) : (enter phases p).head? = some p := by
  unfold enter
  split
  · assumption
  · rfl

/-- The present phase is `p`, and every phase so far leads to the next one. -/
structure Orderly (on : Bool) (phases : List Phase) (p : Phase) : Prop where
  present : phases.head? = some p
  chain : phases.IsChain fun later earlier => Leads on earlier later

variable {on : Bool} {phases : List Phase} {p q : Phase}

theorem Orderly.enter (h : Orderly on phases p) (hq : p = q ∨ Leads on p q) :
    Orderly on (enter phases q) q where
  present := head?_enter phases q
  chain := by
    unfold Phase.enter
    split
    · exact h.chain
    · rename_i hne
      have hl : Leads on p q := hq.resolve_left fun he => hne (he ▸ h.present)
      obtain ⟨rest, rfl⟩ := List.head?_eq_some_iff.1 h.present
      exact .cons_cons hl h.chain

end Phase

open Phase (Leads Orderly enterAll)

/-! ## The phases of a group -/

/-- The phases that are entered for some attempts at a group. -/
def Attempt.phases : List Attempt → List Phase
  | [] => []
  | _ :: rest => .compiling :: rest.flatMap fun _ => [.retrying, .compiling]

namespace Attempt

theorem phases_cons_cons (a b : Attempt) (rest : List Attempt) :
    phases (a :: b :: rest) = .compiling :: .retrying :: phases (b :: rest) :=
  rfl

theorem count_retrying_phases (as : List Attempt) :
    (phases as).count .retrying = as.length - 1 := by
  cases as with
  | nil => rfl
  | cons a rest =>
    have each : (rest.flatMap fun _ => [Phase.retrying, .compiling]).count .retrying =
        rest.length := by
      induction rest with
      | nil => rfl
      | cons b rest ih =>
        rw [List.flatMap_cons, List.count_append, ih, List.length_cons, Nat.add_comm]
        rfl
    simpa [phases] using each

end Attempt

theorem Phase.Orderly.attempts {phases : List Phase} {p : Phase} (h : Orderly true phases p)
    (hp : p = .ingesting ∨ p = .compiling) {as : List Attempt} (hne : as ≠ []) :
    Orderly true (enterAll phases (Attempt.phases as)) .compiling := by
  obtain ⟨a, rest, rfl⟩ := List.exists_cons_of_ne_nil hne
  have first : Orderly true (Phase.enter phases .compiling) .compiling := by
    rcases hp with rfl | rfl
    · exact h.enter (.inr .compiles)
    · exact h.enter (.inl rfl)
  have others (phases : List Phase) (h : Orderly true phases .compiling) :
      Orderly true (enterAll phases (rest.flatMap fun _ => [.retrying, .compiling])) .compiling := by
    induction rest generalizing phases with
    | nil => exact h
    | cons b rest ih =>
      rw [List.flatMap_cons, Phase.enterAll_append]
      exact ih (List.cons_ne_nil a rest) _ ((h.enter (.inr .retries)).enter (.inr .again))
  exact others _ first

/-- Attempts at one group after the other. -/
theorem Phase.Orderly.runs {phases : List Phase} {p : Phase} (h : Orderly true phases p)
    {runs : List (List Attempt)} (some : runs ≠ []) (hp : p = .ingesting ∨ p = .compiling)
    (hne : ∀ as ∈ runs, as ≠ []) :
    Orderly true (enterAll phases (runs.flatMap Attempt.phases)) .compiling := by
  induction runs generalizing phases p with
  | nil => exact absurd rfl some
  | cons as rest ih =>
    obtain ⟨first, others⟩ := List.forall_mem_cons.1 hne
    have compiled := h.attempts hp first
    rw [List.flatMap_cons, Phase.enterAll_append]
    by_cases hr : rest = []
    · rw [hr]
      exact compiled
    · exact ih compiled hr (.inr rfl) others

/-- What the engine asks for a group: attempts with the group's sources, each further one when the
one before has blamed imports and these are gone, and no more of them than the group has retries. -/
structure Attempt.Retries (retryCount : Nat) (g : CompilationGroup) (as : List Attempt) : Prop where
  nonempty : as ≠ []
  requests : ∀ a ∈ as, a.request.assemblyName = safeName g.key ∧
    a.request.sources.map SourceFile.path = g.units.map ParsedUnit.path
  repairs : as.IsChain Attempt.Repairs
  atMost : (Attempt.phases as).count .retrying ≤ retryCount

theorem GroupCompile.Run.retries {retryCount : Nat} {g : CompilationGroup}
    {version : LanguageVersion} {references : List Path} {as : List Attempt}
    {r : Except ServiceError GroupCompile}
    (h : GroupCompile.Run retryCount 0 0 (g.request version references) as r) :
    Attempt.Retries retryCount g as where
  nonempty := by
    obtain ⟨answer, rest, rfl⟩ := h.head
    exact List.cons_ne_nil _ _
  requests := h.names
  repairs := h.repairs
  atMost := by
    rw [Attempt.count_retrying_phases]
    exact Nat.sub_le_of_le_add h.length_le

namespace GroupCompile

/-- The phases go through the attempts at a group. -/
theorem compileFrom_phases (service : CompileService σ ρ) (retries attempts removed : Nat)
    (request : EmitRequest) (s : CompileState (Traced σ ρ)) :
    ∃ as, as ≠ [] ∧
      (compileFrom service.traced retries attempts removed request s).2.service.exchanges =
        s.service.exchanges ++ as.map Attempt.exchange ∧
      (compileFrom service.traced retries attempts removed request s).2.phases =
        enterAll s.phases (Attempt.phases as) := by
  have entered : (emitOnce service.traced request s).2.phases = Phase.enter s.phases .compiling :=
    rfl
  obtain ⟨answer, ha, hx⟩ := emitOnce_traced service request s
  rw [compileFrom_eq]
  generalize emitOnce service.traced request s = p at ha hx entered ⊢
  obtain ⟨r, s'⟩ := p
  dsimp only at ha hx entered ⊢
  have only : [(⟨request, answer⟩ : Attempt)] ≠ [] := List.cons_ne_nil _ _
  cases r with
  | error e => exact ⟨_, only, hx, entered⟩
  | ok output =>
    dsimp only
    split
    · exact ⟨_, only, hx, entered⟩
    · split
      · exact ⟨_, only, hx, entered⟩
      · rename_i hr
        cases retries with
        | zero => exact absurd hr (stopReason?_zero _ _)
        | succ n =>
          obtain ⟨as, hne, hx', hp⟩ := compileFrom_phases service n (attempts + 1)
            (removed + removable request output) (repaired request output) (s'.enter .retrying)
          obtain ⟨b, rest, rfl⟩ := List.exists_cons_of_ne_nil hne
          refine ⟨⟨request, answer⟩ :: b :: rest, List.cons_ne_nil _ _, ?_, ?_⟩
          · rw [Nat.add_sub_cancel, hx']
            show s'.service.exchanges ++ _ = _
            rw [hx, List.append_assoc]
            rfl
          · rw [Nat.add_sub_cancel, hp, Attempt.phases_cons_cons]
            show enterAll (Phase.enter s'.phases .retrying) _ = _
            rw [entered]
            rfl

end GroupCompile

/-! ## The phases of a build -/

/-- Where there are units there are groups. -/
theorem CompilationGroup.partition_ne_nil {baseType : String} {units : List ParsedUnit}
    (h : units ≠ []) : partition baseType units ≠ [] := by
  intro hn
  have perm := partition_perm baseType units
  rw [hn] at perm
  exact h perm.nil_eq.symm

theorem EngineState.phase_of_enter {s : EngineState φ σ ρ} {phases : List Phase} {p : Phase}
    (h : s.phases = Phase.enter phases p) : s.phase = p := by
  rw [phase, h, List.headD_eq_head?_getD, Phase.head?_enter]
  rfl

namespace Engine

variable {e : Engine φ σ ρ}

theorem writeArtifacts_phases (output : EmitOutput) (o : GroupOutcome) (s : EngineState φ σ ρ) :
    (e.writeArtifacts output o s).2.phases = s.phases := by
  unfold writeArtifacts
  split <;> rfl

theorem writeLog_phases (name : String) (t : TimeStamp) (o : GroupOutcome)
    (s : EngineState φ σ ρ) : (e.writeLog name t o s).2.phases = s.phases := by
  unfold writeLog
  split <;> rfl

/-- Only the compile of a group enters phases. -/
theorem buildGroup_phases (references : List Path) (t : TimeStamp) (g : CompilationGroup)
    (s : EngineState φ σ ρ) :
    (e.buildGroup references t g s).2.phases = (e.compileGroup references g s).2.phases := by
  unfold buildGroup
  rcases e.compileGroup references g s with ⟨r, s'⟩
  cases r with
  | error err =>
    dsimp only
    split <;> rfl
  | ok c =>
    dsimp only
    split
    · exact writeArtifacts_phases ..
    · exact writeLog_phases ..

theorem buildGroup_retries (references : List Path) (t : TimeStamp) (g : CompilationGroup)
    (s : EngineState φ (Traced σ ρ) ρ) :
    ∃ as, (e.traced.buildGroup references t g s).2.service.exchanges =
        s.service.exchanges ++ as.map Attempt.exchange ∧
      Attempt.Retries e.settings.retryCount.toNat g as ∧
      (e.traced.buildGroup references t g s).2.phases =
        enterAll s.phases (Attempt.phases as) := by
  obtain ⟨as, hx, hrun⟩ := e.buildGroup_run references t g s
  obtain ⟨bs, -, hy, hp⟩ := GroupCompile.compileFrom_phases e.service
    e.settings.retryCount.toNat 0 0 (g.request e.settings.languageVersion references)
    ⟨s.service, s.phases⟩
  have same : (as.map Attempt.exchange : List (Exchange ρ)) = bs.map Attempt.exchange := by
    rw [(e.traced.buildGroup_frame references t g s).1] at hx
    exact List.append_cancel_left (hx.symm.trans hy)
  obtain rfl : as = bs := by
    simpa only [Exchange.attempts_map_exchange] using congrArg Exchange.attempts same
  exact ⟨as, hx, hrun.retries, (buildGroup_phases references t g s).trans hp⟩

theorem Builds.phases {references : List Path} {clock : Nat → TimeStamp} {index : Nat}
    {groups : List CompilationGroup} {s s' : EngineState φ (Traced σ ρ) ρ}
    {outcomes : List GroupOutcome} {stop : Option ServiceError}
    (h : e.traced.Builds references clock index groups s outcomes stop s') :
    ∃ begun runs, begun <+: groups ∧ (stop = none → begun = groups) ∧
      s'.service.exchanges = s.service.exchanges ++ runs.flatten.map Attempt.exchange ∧
      List.Forall₂ (Attempt.Retries e.settings.retryCount.toNat) begun runs ∧
      s'.phases = enterAll s.phases (runs.flatMap Attempt.phases) := by
  induction h with
  | done => exact ⟨[], [], List.nil_prefix, fun _ => rfl, (List.append_nil _).symm, .nil, rfl⟩
  | @next index g rest s o s' _ _ _ built _ ih =>
    obtain ⟨as, hx, retries, hp⟩ := @buildGroup_retries _ _ _ e references (clock index) g s
    obtain ⟨begun, runs, hb, hall, hxs, others, hps⟩ := ih
    rw [built] at hx hp
    refine ⟨g :: begun, as :: runs, List.cons_prefix_cons.2 ⟨rfl, hb⟩,
      fun hs => congrArg (g :: ·) (hall hs), ?_, .cons retries others, ?_⟩
    · rw [hxs, hx, List.flatten_cons, List.map_append, List.append_assoc]
    · rw [hps, hp, List.flatMap_cons, Phase.enterAll_append]
  | @ended index g rest s err s' refused =>
    obtain ⟨as, hx, retries, hp⟩ := @buildGroup_retries _ _ _ e references (clock index) g s
    rw [refused] at hx hp
    exact ⟨[g], [as], List.cons_prefix_cons.2 ⟨rfl, List.nil_prefix⟩, nofun, by simpa using hx,
      .cons retries .nil, by simpa using hp⟩

/-- What a cycle asks the compiler for its groups, each of which has a key of its own, and the
phases that it goes through. -/
structure Staged (e : Engine φ σ ρ) (before after : List Phase) (asked : List Attempt)
    (groups : List CompilationGroup) (runs : List (List Attempt)) : Prop where
  keys : (groups.map CompilationGroup.key).Nodup
  asked : asked = runs.flatten
  retries : List.Forall₂ (Attempt.Retries e.settings.retryCount.toNat) groups runs
  phases : after = enterAll before (.ingesting :: runs.flatMap Attempt.phases)

theorem Passes.staged {root : Path} {clock : Nat → TimeStamp} {s s' : EngineState φ (Traced σ ρ) ρ}
    {r : Except BuildFailure BuildReport} (h : e.traced.Passes root clock s r s')
    (hs : s.service.exchanges = []) :
    ∃ groups runs,
      e.Staged s.phases s'.phases (Exchange.attempts s'.service.exchanges) groups runs ∧
      ∀ report, r = .ok report → report.groups ≠ [] ∧ groups ≠ [] := by
  have parses {r : Except IntakeError IntakeReport} {files : φ} {service : Traced σ ρ}
      (taken : e.traced.intakeFrom root s = (r, files, service)) :
      Exchange.attempts service.exchanges = [] := by
    obtain ⟨_, xs, _, hx, ht, -⟩ := e.intakeFrom_traffic taken
    rw [hx, hs, List.nil_append]
    exact Exchange.attempts_of_isParse ht.isParse
  have untouched {t : EngineState φ (Traced σ ρ) ρ} {r : Except IntakeError IntakeReport}
      {files : φ} {service : Traced σ ρ}
      (taken : e.traced.intakeFrom root s = (r, files, service)) (ht : t.service = service)
      (hp : t.phases = Phase.enter s.phases .ingesting) :
      e.Staged s.phases t.phases (Exchange.attempts t.service.exchanges) [] [] :=
    ⟨List.nodup_nil, by rw [ht, parses taken]; rfl, .nil, hp⟩
  have after {intake : IntakeReport} {files : φ} {service : Traced σ ρ} {references : List Path}
      {outcomes : List GroupOutcome} {stop : Option ServiceError}
      {s₁ : EngineState φ (Traced σ ρ) ρ}
      (taken : e.traced.intakeFrom root s = (.ok intake, files, service))
      (refs : e.traced.takeReferences (s.takenIn files service) = (.ok references, s₁))
      (groups : e.traced.Builds references clock 0
        (CompilationGroup.partition e.settings.pluginBaseType intake.units) s₁ outcomes stop s') :
      ∃ begun runs,
        e.Staged s.phases s'.phases (Exchange.attempts s'.service.exchanges) begun runs ∧
        (stop = none →
          begun = CompilationGroup.partition e.settings.pluginBaseType intake.units) := by
    obtain ⟨begun, runs, hb, hall, hx, retries, hp⟩ := groups.phases
    have entered : s₁.phases = Phase.enter s.phases .ingesting :=
      (congrArg (fun p => p.2.phases) refs).symm
    refine ⟨begun, runs, ⟨?_, ?_, retries, ?_⟩, hall⟩
    · exact ((CompilationGroup.partition_keys_nodup _ _).sublist (hb.sublist.map _))
    · rw [hx, service_of_takeReferences refs, Exchange.attempts_append,
        Exchange.attempts_map_exchange]
      show Exchange.attempts service.exchanges ++ _ = _
      rw [parses taken, List.nil_append]
    · rw [hp, entered]
      rfl
  cases h with
  | notTaken taken | noUnits taken => exact ⟨[], [], untouched taken rfl rfl, nofun⟩
  | noReferences taken _ refs =>
    exact ⟨[], [], untouched taken (service_of_takeReferences refs)
      (congrArg (fun p => p.2.phases) refs).symm, nofun⟩
  | stopped taken _ refs groups =>
    obtain ⟨begun, runs, staged, -⟩ := after taken refs groups
    exact ⟨begun, runs, staged, nofun⟩
  | @reported intake _ _ _ _ outcomes _ taken units refs groups =>
    obtain ⟨begun, runs, staged, hall⟩ := after taken refs groups
    obtain ⟨_, -, built⟩ := groups.built
    have some : begun ≠ [] := by
      rw [hall rfl]
      exact CompilationGroup.partition_ne_nil units
    refine ⟨begun, runs, staged, fun report hr => ?_⟩
    cases hr
    have keys : outcomes.map GroupOutcome.key = begun.map CompilationGroup.key := by
      rw [hall rfl]
      exact built.keys
    refine ⟨fun hn => some (List.map_eq_nil_iff.1 (keys.symm.trans ?_)), some⟩
    exact List.map_eq_nil_iff.2 hn

/-- What a build does to the phases, and what its last one says of it. -/
structure Advances (e : Engine φ σ ρ) (root : Path) (clock : Nat → TimeStamp)
    (s : EngineState φ σ ρ) : Prop where
  staged : e.settings.enabled = true → ∃ groups runs cycle,
    e.Staged s.phases cycle (Exchange.attempts (e.exchanges root clock s)) groups runs ∧
      (e.buildDir root clock s).2.phases =
        Phase.enter cycle (finalPhase (e.buildDir root clock s).1)
  refused : e.settings.enabled = false →
    (e.buildDir root clock s).2.phases = Phase.enter s.phases .failed
  succeeds : (e.buildDir root clock s).2.phase = .success ↔ ∃ report,
    (e.buildDir root clock s).1 = .ok report ∧ report.groups ≠ [] ∧
      ∀ o ∈ report.groups, o.success = true

theorem settleLogs_phases (r : Except BuildFailure BuildReport) (s : EngineState φ σ ρ) :
    (e.settleLogs r s).phases = s.phases := by
  cases r with
  | error err => rfl
  | ok report =>
    unfold settleLogs
    dsimp only
    split <;> rfl

theorem finalPhase_eq_success {r : Except BuildFailure BuildReport} :
    finalPhase r = .success ↔ ∃ report, r = .ok report ∧ ∀ o ∈ report.groups, o.success = true := by
  cases r with
  | error err => exact ⟨nofun, nofun⟩
  | ok report =>
    simp only [finalPhase, Except.ok.injEq, exists_eq_left']
    rw [← List.all_eq_true, ← BuildReport.allSucceeded]
    split <;> simp_all

theorem finalPhase_cases (r : Except BuildFailure BuildReport) :
    finalPhase r = .success ∨ finalPhase r = .failed := by
  cases r with
  | error err => exact .inr rfl
  | ok report =>
    unfold finalPhase
    dsimp only
    split
    · exact .inl rfl
    · exact .inr rfl

/-- The phases of a build, with the groups of its report. -/
theorem buildDir_staged {root : Path} {clock : Nat → TimeStamp} {s : EngineState φ σ ρ}
    (on : e.settings.enabled = true) :
    ∃ groups runs cycle,
      e.Staged s.phases cycle (Exchange.attempts (e.exchanges root clock s)) groups runs ∧
      (e.buildDir root clock s).2.phases =
        Phase.enter cycle (finalPhase (e.buildDir root clock s).1) ∧
      ∀ report, (e.buildDir root clock s).1 = .ok report → report.groups ≠ [] ∧ groups ≠ [] := by
  obtain ⟨s', passes, last⟩ := @buildDir_passes _ _ _ e.traced root clock s.traceStart on
  obtain ⟨groups, runs, staged, some⟩ := passes.staged rfl
  have asked : e.exchanges root clock s = s'.service.exchanges := by
    rw [exchanges, last]
    exact congrArg Traced.exchanges (e.traced.settleLogs_service _ s')
  have same := e.buildDir_traced root clock s
  refine ⟨groups, runs, s'.phases, ?_, ?_, ?_⟩
  · rw [asked]
    exact staged
  · rw [same]
    show (e.traced.buildDir root clock s.traceStart).2.phases = _
    rw [last]
    show Phase.enter (e.traced.settleLogs _ s').phases _ = _
    rw [settleLogs_phases]
    rfl
  · rw [same]
    exact some

variable (e) in
theorem buildDir_advances (root : Path) (clock : Nat → TimeStamp) (s : EngineState φ σ ρ) :
    e.Advances root clock s := by
  by_cases on : e.settings.enabled = true
  · obtain ⟨groups, runs, cycle, staged, last, some⟩ := @buildDir_staged _ _ _ e root clock s on
    refine ⟨fun _ => ⟨groups, runs, cycle, staged, last⟩, fun off => absurd on (by simp [off]), ?_⟩
    rw [EngineState.phase_of_enter last, finalPhase_eq_success]
    constructor
    · rintro ⟨report, hr, all⟩
      exact ⟨report, hr, (some report hr).1, all⟩
    · rintro ⟨report, hr, -, all⟩
      exact ⟨report, hr, all⟩
  · have off : e.settings.enabled = false := by simpa using on
    have refused : e.buildDir root clock s = (.error .disabled, s.enter .failed) := by
      rw [buildDir, if_neg on]
    refine ⟨fun on' => absurd on' on, fun _ => by rw [refused]; rfl, ?_⟩
    rw [EngineState.phase_of_enter (congrArg (fun p => p.2.phases) refused), refused]
    constructor
    · intro final
      cases final
    · rintro ⟨report, hr, -⟩
      cases hr

/-! ## Histories -/

/-- The phases are in order, and nothing is being built. -/
def AtRest (e : Engine φ σ ρ) (s : EngineState φ σ ρ) : Prop :=
  Phase.Orderly e.settings.enabled s.phases s.phase ∧ s.phase.isResting = true

theorem AtRest.of_phases {s s' : EngineState φ σ ρ} (h : e.AtRest s) (hp : s'.phases = s.phases) :
    e.AtRest s' := by
  have same : s'.phase = s.phase := congrArg (fun phases => phases.headD Phase.idle) hp
  unfold AtRest
  rw [hp, same]
  exact h

/-- A cycle leads from rest to the phase of the intake or, if a group is begun, to a compile. -/
theorem Staged.keepsOrder {before after : List Phase} {asked : List Attempt}
    {groups : List CompilationGroup} {runs : List (List Attempt)} {p : Phase}
    (h : e.Staged before after asked groups runs) (hb : Phase.Orderly true before p)
    (hp : p.isResting = true) :
    groups = [] ∧ Phase.Orderly true after .ingesting ∨ Phase.Orderly true after .compiling := by
  have ingesting : Phase.Orderly true (Phase.enter before .ingesting) .ingesting :=
    hb.enter (.inr (.begins hp))
  rw [h.phases]
  cases h.retries with
  | nil => exact .inl ⟨rfl, ingesting⟩
  | cons first others =>
    refine .inr (ingesting.runs (List.cons_ne_nil _ _) (.inl rfl) ?_)
    refine List.forall_mem_cons.2 ⟨first.nonempty, fun as ha => ?_⟩
    obtain ⟨g, -, retries⟩ := (exists_of_forall₂ others).2 as ha
    exact retries.nonempty

theorem atRest_buildDir {s : EngineState φ σ ρ} (root : Path) (clock : Nat → TimeStamp)
    (h : e.AtRest s) : e.AtRest (e.buildDir root clock s).2 := by
  obtain ⟨orderly, resting⟩ := h
  by_cases on : e.settings.enabled = true
  · obtain ⟨groups, runs, cycle, staged, last, some⟩ := @buildDir_staged _ _ _ e root clock s on
    rw [on] at orderly
    have ends : Phase.Orderly true (e.buildDir root clock s).2.phases
        (finalPhase (e.buildDir root clock s).1) := by
      rw [last]
      rcases staged.keepsOrder orderly resting with ⟨none, intake⟩ | compile
      · have failed : finalPhase (e.buildDir root clock s).1 = .failed := by
          refine (finalPhase_cases _).resolve_left fun hs => ?_
          obtain ⟨report, hr, -⟩ := finalPhase_eq_success.1 hs
          exact (some report hr).2 none
        rw [failed]
        exact intake.enter (.inr .refused)
      · rcases finalPhase_cases (e.buildDir root clock s).1 with hf | hf
        · rw [hf]
          exact compile.enter (.inr .succeeds)
        · rw [hf]
          exact compile.enter (.inr .fails)
    unfold AtRest
    rw [on, EngineState.phase_of_enter last]
    refine ⟨ends, ?_⟩
    rcases finalPhase_cases (e.buildDir root clock s).1 with hf | hf <;> rw [hf] <;> rfl
  · have off : e.settings.enabled = false := by simpa using on
    have refused : (e.buildDir root clock s).2.phases = Phase.enter s.phases .failed := by
      rw [buildDir, if_neg on]
      rfl
    rw [off] at orderly
    unfold AtRest
    rw [off, EngineState.phase_of_enter refused, refused]
    refine ⟨orderly.enter ?_, rfl⟩
    cases hp : s.phase with
    | failed => exact .inl rfl
    | idle => exact .inr (.off (.inl rfl))
    | success => exact .inr (.off (.inr rfl))
    | ingesting | compiling | retrying => rw [hp] at resting; cases resting

theorem precompile_phases (name source : String) (imports : List String) (s : EngineState φ σ ρ) :
    (e.precompile name source imports s).2.phases = s.phases := by
  have compile : (e.compileScript name source imports s).2.phases = s.phases := by
    have taken : (e.takeReferences s).2.phases = s.phases := rfl
    unfold compileScript
    generalize e.takeReferences s = r at taken ⊢
    obtain ⟨r, s'⟩ := r
    cases r <;> exact taken
  unfold precompile
  dsimp only
  split
  · rfl
  · generalize e.compileScript name source imports s = r at compile ⊢
    obtain ⟨r, s'⟩ := r
    cases r <;> exact compile

theorem precompileFiles_phases (imports : List String) (summary : BatchSummary)
    (paths : List Path) (s : EngineState φ σ ρ) :
    (e.precompileFiles imports summary paths s).2.phases = s.phases := by
  induction paths generalizing s summary with
  | nil => rfl
  | cons p rest ih =>
    unfold precompileFiles
    cases p.stem? with
    | none => exact ih ..
    | some name =>
      cases e.readScript p s.files with
      | error err => exact ih ..
      | ok source =>
        have first := @precompile_phases _ _ _ e name source imports s
        dsimp only
        generalize e.precompile name source imports s = r at first ⊢
        obtain ⟨r, s'⟩ := r
        cases r <;> exact (ih ..).trans first

theorem run_phases (name : String) (context : Json) (limit : Nat) (s : EngineState φ σ ρ) :
    (e.run name context limit s).2.phases = s.phases := by
  unfold run
  cases s.scripts.find? name <;> rfl

theorem perform_phases (call : ScriptCall φ) (s : EngineState φ σ ρ) :
    (e.perform s call).phases = s.phases := by
  cases call with
  | precompile name source imports => exact precompile_phases ..
  | recompile name source imports => exact precompile_phases ..
  | precompileDir dir imports =>
    show (e.precompileDir dir imports s).2.phases = s.phases
    rw [precompileDir_snd]
    cases e.store.isDir dir s.files with
    | true => exact precompileFiles_phases ..
    | false => rfl
  | run name context limit => exact run_phases ..
  | clear name => rfl
  | change files => rfl

theorem runScriptFile_phases (p : Path) (context : Json) (limit : Nat) (s : EngineState φ σ ρ) :
    (e.runScriptFile p context limit s).2.phases = s.phases := by
  unfold runScriptFile
  cases e.readScript p s.files with
  | error err => rfl
  | ok source =>
    have first := @precompile_phases _ _ _ e (scriptName p) source [] s
    dsimp only
    generalize e.precompile (scriptName p) source [] s = r at first ⊢
    obtain ⟨r, s'⟩ := r
    cases r with
    | error err => exact first
    | ok status => exact (run_phases (scriptName p) context limit s').trans first

theorem cleanSources_phases (s : EngineState φ σ ρ) :
    (e.cleanSources s).2.phases = s.phases := by
  rw [cleanSources_snd]
  split <;> rfl

theorem atRest_carryOut (call : EngineCall φ) {s : EngineState φ σ ρ} (h : e.AtRest s) :
    e.AtRest (e.carryOut s call) := by
  cases call with
  | build clock => exact atRest_buildDir e.workspace.sourceDir clock h
  | buildDir root clock => exact atRest_buildDir root clock h
  | script call => exact h.of_phases (perform_phases call s)
  | runScriptFile p context limit => exact h.of_phases (runScriptFile_phases p context limit s)
  | cleanSources => exact h.of_phases (cleanSources_phases s)

/-- Whatever calls are made with a new engine, the phases are in order after them and nothing is
being built, and any further build goes on from there. -/
theorem history_phases (e : Engine φ σ ρ) (calls : List (EngineCall φ)) (files : φ) (service : σ) :
    e.AtRest (calls.foldl e.carryOut (.start files service)) ∧
      ∀ root clock, e.Advances root clock (calls.foldl e.carryOut (.start files service)) := by
  refine ⟨?_, fun root clock => e.buildDir_advances root clock _⟩
  have start : e.AtRest (.start files service) := ⟨⟨rfl, .singleton _⟩, rfl⟩
  generalize EngineState.start files service = s at start
  induction calls generalizing s with
  | nil => exact start
  | cons call rest ih => exact ih _ (atRest_carryOut call start)

end Engine
end PluginForge
