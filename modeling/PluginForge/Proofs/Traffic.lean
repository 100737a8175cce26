/-
What passes between an engine and its compiler in a build, however the build ends: sources are taken
in and, if that ends with a report, groups of their units are compiled. Every text that the compiler
gets so comes from a source by removing imports, adding default imports and pruning, in this order,
and what the first step makes true and the other two keep is true of all of them.
-/
import PluginForge.Proofs.Accounting

namespace PluginForge

variable {φ σ ρ : Type}

/-- The texts that the compiler gets in an exchange of a build. -/
def Exchange.texts : Exchange ρ → List String
  | .parse source _ _ => [source.text]
  | .emit request _ => request.sources.map SourceFile.text
  | .compileScript .. | .run .. => []

/-! ## Sources -/

namespace Intake

variable {fs : FileSystem φ} {settings : Settings} {files : φ}

/-- Whatever the intake of the sources below a root ends in, some files are taken in. -/
theorem ingest_traffic (service : CompileService σ ρ) {root : Path} {t t' : Traced σ ρ}
    {r : Except IntakeError IntakeReport} {files' : φ}
    (h : ingest fs service.traced settings root files t = (r, files', t')) :
    ∃ paths xs taken, t'.exchanges = t.exchanges ++ xs ∧ Taken fs settings files paths xs taken ∧
      ∀ report, r = .ok report → taken = .ok report := by
  cases r with
  | ok report =>
    obtain ⟨paths, xs, -, hx, ht⟩ := ingest_taken service h
    exact ⟨paths, xs, _, hx, ht, fun _ he => by cases he; rfl⟩
  | error err =>
    unfold ingest at h
    split at h
    · cases h
      exact ⟨[], [], _, (List.append_nil _).symm, .nil, nofun⟩
    · rename_i paths files'' hd
      obtain ⟨-, rfl⟩ := discover_eq_ok hd
      obtain ⟨xs, taken, hx, -, ht⟩ := ingestAll_taken service fs settings files'' ⟨[], []⟩ paths t
      simp only [Prod.mk.injEq] at h
      obtain ⟨-, -, rfl⟩ := h
      exact ⟨paths, xs, taken, hx, ht, nofun⟩

section

variable {P : String → Prop} (hs : ∀ text, P (Import.strip text settings.removedImports))
  (hc : ∀ text tree, P text → P (completed settings text tree))

include hs hc

theorem FileIntake.forall_text {p : Path} {xs : List (Exchange ρ)}
    {r : Except ServiceError FileOutcome} (h : FileIntake fs settings files p xs r) :
    ∀ x ∈ xs, ∀ text ∈ x.texts, P text := by
  cases h with
  | unread | empty | blank => exact fun x hx => absurd hx List.not_mem_nil
  | @text u _ _ _ _ hp =>
    have hstripped := hs u.text
    cases hp with
    | fault | invalid | complete => simpa [parsing, Exchange.texts] using hstripped
    | @faultAgain probe | @parsedAgain probe =>
      simpa [parsing, Exchange.texts] using ⟨hstripped, hc _ probe hstripped⟩

theorem Taken.forall_text {paths : List Path} {xs : List (Exchange ρ)}
    {r : Except ServiceError IntakeReport} (h : Taken fs settings files paths xs r) :
    ∀ x ∈ xs, ∀ text ∈ x.texts, P text := by
  induction h with
  | nil => exact fun x hx => absurd hx List.not_mem_nil
  | next hf _ _ ih =>
    intro x hx
    rcases List.mem_append.1 hx with hx | hx
    · exact hf.forall_text hs hc x hx
    · exact ih x hx
  | outOfMemory hf => exact hf.forall_text hs hc

end

end Intake

/-! ## Groups -/

theorem GroupCompile.Run.forall_text {P : String → Prop}
    (hp : ∀ text names, P text → P (MissingSymbol.pruneText names text).1)
    {retries attempts removed : Nat} {request : EmitRequest} {as : List Attempt}
    {result : Except ServiceError GroupCompile}
    (h : GroupCompile.Run retries attempts removed request as result)
    (hr : ∀ src ∈ request.sources, P src.text) :
    ∀ x ∈ (as.map Attempt.exchange : List (Exchange ρ)), ∀ text ∈ x.texts, P text := by
  have hall := h.forall_request (P := fun r => ∀ src ∈ r.sources, P src.text) hr <| by
    intro request output hr src hs
    obtain ⟨src', hm, rfl⟩ := List.mem_map.1 hs
    exact hp _ _ (hr src' hm)
  intro x hx text ht
  obtain ⟨a, ha, rfl⟩ := List.mem_map.1 hx
  obtain ⟨src, hs, rfl⟩ := List.mem_map.1 ht
  exact hall a ha src hs

namespace Engine

variable (e : Engine φ σ ρ)

/-- The attempts at one of some groups. -/
def GroupRun (references : List Path) (groups : List CompilationGroup) (as : List Attempt) : Prop :=
  ∃ g ∈ groups, ∃ r, GroupCompile.Run e.settings.retryCount.toNat 0 0
    (g.request e.settings.languageVersion references) as r

variable {e}

theorem GroupRun.mono {references : List Path} {groups groups' : List CompilationGroup}
    {as : List Attempt} (h : e.GroupRun references groups as) (hs : groups ⊆ groups') :
    e.GroupRun references groups' as := by
  obtain ⟨g, hg, hr⟩ := h
  exact ⟨g, hs hg, hr⟩

theorem Builds.runs {references : List Path} {clock : Nat → TimeStamp} {index : Nat}
    {groups : List CompilationGroup} {s s' : EngineState φ (Traced σ ρ) ρ}
    {outcomes : List GroupOutcome} {stop : Option ServiceError}
    (h : e.traced.Builds references clock index groups s outcomes stop s') :
    ∃ runs : List (List Attempt),
      s'.service.exchanges = s.service.exchanges ++ runs.flatten.map Attempt.exchange ∧
        ∀ as ∈ runs, e.GroupRun references groups as := by
  induction h with
  | done => exact ⟨[], (List.append_nil _).symm, fun as ha => absurd ha List.not_mem_nil⟩
  | @next index g rest s o s' _ _ _ built _ ih =>
    obtain ⟨as, hx, hrun⟩ := e.buildGroup_run references (clock index) g s
    obtain ⟨runs, hxs, hruns⟩ := ih
    rw [built] at hx
    refine ⟨as :: runs, ?_, List.forall_mem_cons.2 ⟨⟨g, List.mem_cons_self, _, hrun⟩,
      fun as' ha => (hruns as' ha).mono (List.subset_cons_self g rest)⟩⟩
    rw [hxs, hx, List.flatten_cons, List.map_append, List.append_assoc]
  | @ended index g rest s err s' refused =>
    obtain ⟨as, hx, hrun⟩ := e.buildGroup_run references (clock index) g s
    rw [refused] at hx
    exact ⟨[as], by simpa using hx,
      List.forall_mem_singleton.2 ⟨g, List.mem_cons_self, _, hrun⟩⟩

variable (e)

/-! ## Builds -/

/-- What a build asks the compiler while it takes in sources. -/
theorem intakeFrom_traffic {root : Path} {s : EngineState φ (Traced σ ρ) ρ} {files : φ}
    {service : Traced σ ρ} {r : Except IntakeError IntakeReport}
    (h : e.traced.intakeFrom root s = (r, files, service)) :
    ∃ paths xs taken, service.exchanges = s.service.exchanges ++ xs ∧
      Intake.Taken e.store e.settings (Artifact.clean e.store e.workspace.outputDir s.files) paths
        xs taken ∧
      ∀ report, r = .ok report → taken = .ok report :=
  Intake.ingest_traffic e.service h

/-- The exchanges of a build with these files: those in which sources are taken in and, behind them
if there is a report, those in which groups of its units are compiled. -/
inductive Traffic (files : φ) : List (Exchange ρ) → Prop
  | intake {paths xs taken} (h : Intake.Taken e.store e.settings files paths xs taken) :
      Traffic files xs
  | groups {paths xs intake references} {runs : List (List Attempt)}
      (h : Intake.Taken e.store e.settings files paths xs (.ok intake))
      (hr : ∀ as ∈ runs, e.GroupRun references
        (CompilationGroup.partition e.settings.pluginBaseType intake.units) as) :
      Traffic files (xs ++ runs.flatten.map Attempt.exchange)

variable {e} in
theorem Passes.traffic {root : Path} {clock : Nat → TimeStamp}
    {s s' : EngineState φ (Traced σ ρ) ρ} {r : Except BuildFailure BuildReport}
    (h : e.traced.Passes root clock s r s') :
    ∃ xs, s'.service.exchanges = s.service.exchanges ++ xs ∧
      e.Traffic (Artifact.clean e.store e.workspace.outputDir s.files) xs := by
  have after {intake : IntakeReport} {files : φ} {service : Traced σ ρ} {references : List Path}
      {outcomes : List GroupOutcome} {stop : Option ServiceError}
      {s₁ : EngineState φ (Traced σ ρ) ρ}
      (taken : e.traced.intakeFrom root s = (.ok intake, files, service))
      (refs : e.traced.takeReferences (s.takenIn files service) = (.ok references, s₁))
      (groups : e.traced.Builds references clock 0
        (CompilationGroup.partition e.settings.pluginBaseType intake.units) s₁ outcomes stop s') :
      ∃ xs, s'.service.exchanges = s.service.exchanges ++ xs ∧
        e.Traffic (Artifact.clean e.store e.workspace.outputDir s.files) xs := by
    obtain ⟨paths, xs, taken, hx, ht, hok⟩ := e.intakeFrom_traffic taken
    obtain rfl := hok intake rfl
    obtain ⟨runs, hxs, hr⟩ := groups.runs
    refine ⟨xs ++ runs.flatten.map Attempt.exchange, ?_, .groups ht hr⟩
    rw [hxs, service_of_takeReferences refs, ← List.append_assoc]
    exact congrArg (· ++ _) hx
  cases h with
  | notTaken taken | noUnits taken =>
    obtain ⟨paths, xs, taken, hx, ht, -⟩ := e.intakeFrom_traffic taken
    exact ⟨xs, hx, .intake ht⟩
  | noReferences taken _ refs =>
    obtain ⟨paths, xs, taken, hx, ht, -⟩ := e.intakeFrom_traffic taken
    refine ⟨xs, ?_, .intake ht⟩
    rw [service_of_takeReferences refs]
    exact hx
  | stopped taken _ refs groups => exact after taken refs groups
  | reported taken _ refs groups => exact after taken refs groups

theorem buildDir_traffic (root : Path) (clock : Nat → TimeStamp) (s : EngineState φ σ ρ) :
    e.Traffic (Artifact.clean e.store e.workspace.outputDir s.files)
      (e.exchanges root clock s) := by
  by_cases on : e.settings.enabled = true
  · obtain ⟨s', passes, hx, -⟩ := @buildDir_passes_traced _ _ _ e root clock s on
    obtain ⟨xs, hxs, ht⟩ := passes.traffic
    rw [hx, hxs]
    exact ht
  · rw [exchanges_of_disabled on]
    exact .intake .nil

/-- What removing imports makes true of a text, and adding default imports and pruning keep so, is
true of all texts that the compiler gets. -/
theorem Traffic.forall_text {e : Engine φ σ ρ} {files : φ} {xs : List (Exchange ρ)}
    (h : e.Traffic files xs) {P : String → Prop}
    (hs : ∀ text, P (Import.strip text e.settings.removedImports))
    (hc : ∀ text tree, P text → P (Intake.completed e.settings text tree))
    (hp : ∀ text names, P text → P (MissingSymbol.pruneText names text).1) :
    ∀ x ∈ xs, ∀ text ∈ x.texts, P text := by
  cases h with
  | intake h => exact h.forall_text hs hc
  | @groups _ xs intake references runs h hr =>
    have hparsed := h.forall_text hs hc
    intro x hx
    rcases List.mem_append.1 hx with hx | hx
    · exact hparsed x hx
    · rw [List.map_flatten] at hx
      obtain ⟨ys, hm, hx⟩ := List.mem_flatten.1 hx
      obtain ⟨as, ha, rfl⟩ := List.mem_map.1 hm
      obtain ⟨g, hg, r, hrun⟩ := hr as ha
      refine hrun.forall_text hp (fun src hsrc => ?_) x hx
      -- a group's first sources are the texts with which its units were parsed
      obtain ⟨u, hu, rfl⟩ := List.mem_map.1 hsrc
      obtain ⟨hx, -⟩ := h.key_of_mem_partition hg hu
      exact hparsed _ hx _ (List.mem_singleton_self _)

end Engine
end PluginForge
