/-
What a build that fails leaves in the output directory of a file system in memory. Up to its groups a
build writes nothing, and only a compiler without memory ends it later. Then the artifacts of the
groups before stay where they are, while the failure says nothing of these groups: their outcomes are
dropped, and nobody takes the files back.
-/
import PluginForge.Proofs.Artifacts
import PluginForge.Proofs.Failures
import PluginForge.Proofs.Leftovers

namespace PluginForge

open MemoryStore

variable {φ σ ρ : Type}

/-! ## Files -/

def StoreChange.succeeds : StoreChange → Bool
  | .write _ _ r | .remove _ r | .makeDir _ r => r.isOk

namespace MemoryStore

/-- While nothing is removed, the files are those that were there and those that are written. -/
theorem find?_ne_none_of_did {m m' : MemoryStore} {changes : List StoreChange}
    (h : fileSystem.Did m changes m') (kept : ∀ c ∈ changes, c.isRemove = false) (name : String) :
    find? name m'.files ≠ none ↔ find? name m.files ≠ none ∨
      ∃ p content, .write p content (.ok ()) ∈ changes ∧ normalize p = name := by
  induction h with
  | nil => simp
  | @cons m m₁ m' c changes first rest ih =>
    obtain ⟨hc, kept⟩ := List.forall_mem_cons.1 kept
    have step : find? name m₁.files ≠ none ↔ find? name m.files ≠ none ∨
        ∃ p content, .write p content (.ok ()) = c ∧ normalize p = name := by
      cases first with
      | @write p content m r m₁ hw =>
        cases r with
        | ok u =>
          have files : m₁.files = insert (normalize p) content m.files := by
            have h := write_ok (congrArg Prod.fst hw)
            rwa [show (m.write p content).2 = m₁ from congrArg Prod.snd hw] at h
          rw [files, find?_insert]
          by_cases hp : normalize p = name <;> simp [hp]
        | error err =>
          have same : m₁ = m := by
            have h := write_error (congrArg Prod.fst hw)
            rwa [show (m.write p content).2 = m₁ from congrArg Prod.snd hw] at h
          simp [same]
      | remove => cases hc
      | @makeDir p m r m₁ hm =>
        have files : m₁.files = m.files := by
          have h := makeDir_files p m
          rwa [show (m.makeDir p).2 = m₁ from congrArg Prod.snd hm] at h
        simp [files]
    rw [ih kept, step, or_assoc]
    simp only [List.mem_cons, or_and_right, exists_or]

end MemoryStore

namespace Engine

section

variable {e : Engine MemoryStore σ ρ} (he : e.store = MemoryStore.fileSystem)

include he

theorem files_of_intakeFrom {root : Path} {s : EngineState MemoryStore σ ρ} {files : MemoryStore}
    {service : σ} {r : Except IntakeError IntakeReport}
    (h : e.intakeFrom root s = (r, files, service)) :
    files.files = (Artifact.clean fileSystem e.workspace.outputDir s.files).files := by
  have kept := Intake.ingest_memory_files e.service e.settings root
    (Artifact.clean fileSystem e.workspace.outputDir s.files) s.service
  unfold intakeFrom at h
  rwa [he, h] at *

theorem files_of_takeReferences {s s' : EngineState MemoryStore σ ρ}
    {r : Except ReferenceError (List Path)} (h : e.takeReferences s = (r, s')) :
    s'.files.files = s.files.files := by
  have kept := Reference.getOrResolve_files e.settings e.roots s.references s.files
  rw [← he] at kept
  have same : (e.takeReferences s).2.files = s'.files := congrArg (fun p => p.2.files) h
  exact same ▸ kept

end

/-! ## Groups -/

variable {e : Engine φ σ ρ}

/-- A group that cannot be built is one whose attempts ended for want of memory. -/
theorem buildGroup_refused_run {references : List Path} {t : TimeStamp} {g : CompilationGroup}
    {s s' : EngineState φ (Traced σ ρ) ρ} {err : ServiceError}
    (h : e.traced.buildGroup references t g s = (.error err, s')) :
    err.isOutOfMemory = true ∧
      ∃ as : List Attempt, s'.service.exchanges = s.service.exchanges ++ as.map Attempt.exchange ∧
        GroupCompile.Run e.settings.retryCount.toNat 0 0
          (g.request e.settings.languageVersion references) as (.error err) := by
  obtain ⟨as, hx, hrun⟩ := e.buildGroup_run references t g s
  obtain ⟨hends, hmem⟩ := e.traced.buildGroup_ends references t g s
  rw [h] at hx hends hmem
  have hm := hmem err rfl
  unfold buildGroup at h
  generalize e.traced.compileGroup references g s = r at h hends hrun
  obtain ⟨r, s₁⟩ := r
  cases r with
  | ok c => exact absurd (hends.symm.trans hm) Bool.false_ne_true
  | error err' =>
    dsimp only at h
    split at h
    · cases h
      exact ⟨hm, as, hx, hrun⟩
    · cases h

/-- Then the last attempt was the one that ran out of memory. -/
theorem buildGroup_refused {references : List Path} {t : TimeStamp} {g : CompilationGroup}
    {s s' : EngineState φ (Traced σ ρ) ρ} {err : ServiceError}
    (h : e.traced.buildGroup references t g s = (.error err, s')) :
    err.isOutOfMemory = true ∧
      ∃ (as : List Attempt) (last : Attempt),
        s'.service.exchanges = s.service.exchanges ++ as.map Attempt.exchange ∧
        as.getLast? = some last ∧ last.request.assemblyName = safeName g.key ∧
        last.answer.isExhausted = true := by
  obtain ⟨hm, as, hx, hrun⟩ := buildGroup_refused_run h
  obtain ⟨last, hl, hg⟩ := hrun.getLast_error
  exact ⟨hm, as, last, hx, hl, (hrun.names last (List.mem_of_getLast? hl)).1,
    (Outcome.isExhausted_eq_ends hg).trans hm⟩

/-- Where groups are not built to the end: behind some that are, one that runs out of memory. -/
theorem Builds.stopped {references : List Path} {clock : Nat → TimeStamp} {index : Nat}
    {groups : List CompilationGroup} {s s' : EngineState φ (Traced σ ρ) ρ}
    {outcomes : List GroupOutcome} {err : ServiceError}
    (h : e.traced.Builds references clock index groups s outcomes (some err) s') :
    err.isOutOfMemory = true ∧
      ∃ done g rest, ∃ (as : List Attempt) (last : Attempt), groups = done ++ g :: rest ∧
        outcomes.map GroupOutcome.key = done.map CompilationGroup.key ∧
        s'.service.exchanges = s.service.exchanges ++ as.map Attempt.exchange ∧
        as.getLast? = some last ∧ last.request.assemblyName = safeName g.key ∧
        last.answer.isExhausted = true := by
  generalize hs : some err = stop at h
  induction h with
  | done => cases hs
  | @next index g rest s o s' outcomes stop s'' built _ ih =>
    obtain ⟨hm, done, g', rest', as, last, hg, hk, hx, hl, hname, hexhausted⟩ := ih hs
    obtain ⟨first, hfirst, -⟩ := e.buildGroup_run references (clock index) g s
    obtain ⟨hkey, -⟩ := (e.traced.buildGroup_frame references (clock index) g s).2 o
      (congrArg Prod.fst built)
    rw [built] at hfirst
    refine ⟨hm, g :: done, g', rest', first ++ as, last, by rw [hg, List.cons_append],
      by rw [List.map_cons, List.map_cons, hkey, hk], ?_, ?_, hname, hexhausted⟩
    · rw [hx, hfirst, List.map_append, List.append_assoc]
    · rw [List.getLast?_append, hl, Option.some_or]
  | @ended index g rest s err s' refused =>
    cases hs
    obtain ⟨hm, as, last, hx, hl, hname, hexhausted⟩ := buildGroup_refused refused
    exact ⟨hm, [], g, rest, as, last, rfl, rfl, hx, hl, hname, hexhausted⟩

/-! ## Builds -/

/-- The path is that of a library or of debug symbols directly in the output directory. -/
def HasArtifact (e : Engine φ σ ρ) (files : φ) (p : Path) : Prop :=
  ∃ ext ∈ Artifact.extensions, ∃ paths,
    e.store.list e.workspace.outputDir ext false files = .ok paths ∧ p ∈ paths

/-- What a build that failed leaves in the output directory. -/
inductive Abandons (e : Engine MemoryStore σ ρ) (root : Path) (s : EngineState MemoryStore σ ρ)
    (xs : List (Exchange ρ)) (files : MemoryStore) (f : BuildFailure) : Prop
  | nothing (none : ∀ p, ¬ e.HasArtifact files p)
  /-- The compiler ran out of memory when the group `g` was compiled, and what was written for the
  groups before it is there. -/
  | earlier {intake : IntakeReport} {done g rest last outcomes} {changes : List (List StoreChange)}
      (taken : e.intake root s = .ok intake)
      (groups : CompilationGroup.partition e.settings.pluginBaseType intake.units =
        done ++ g :: rest)
      (kind : f.kind = .resourceExhausted)
      (isLast : (Exchange.attempts xs).getLast? = some last)
      (name : last.request.assemblyName = safeName g.key)
      (exhausted : last.answer.isExhausted = true)
      (built : outcomes.map GroupOutcome.key = done.map CompilationGroup.key)
      (made : List.Forall₂ (GroupOutcome.Made e.workspace.outputDir e.workspace.logsDir) outcomes
        changes)
      (present : ∀ p, e.HasArtifact files p ↔
        Artifact.IsPlaced e.workspace.outputDir p.text ∧ ∃ q content,
          .write q content (.ok ()) ∈ changes.flatten ∧ normalize q = p.text)

theorem isRemove_of_made {dir logs : Path} {outcomes : List GroupOutcome}
    {changes : List (List StoreChange)}
    (h : List.Forall₂ (GroupOutcome.Made dir logs) outcomes changes) :
    ∀ c ∈ changes.flatten, c.isRemove = false := by
  intro c hc
  obtain ⟨m, hm, hc⟩ := List.mem_flatten.1 hc
  obtain ⟨o, -, own⟩ := (exists_of_forall₂ h).2 m hm
  exact own.isRemove c hc

section

variable {e : Engine MemoryStore σ ρ} (he : e.store = MemoryStore.fileSystem)

include he

theorem hasArtifact_iff {m : MemoryStore} {p : Path} :
    e.HasArtifact m p ↔ Artifact.IsPlaced e.workspace.outputDir p.text ∧
      find? p.text m.files ≠ none := by
  rw [HasArtifact, he, Artifact.mem_list_iff]

/-- A build over a file system in memory that fails leaves nothing in the output directory but the
artifacts of the groups before the one that the compiler ran out of memory in. -/
theorem buildDir_abandons {root : Path} {clock : Nat → TimeStamp} {s : EngineState MemoryStore σ ρ}
    {f : BuildFailure} (h : (e.buildDir root clock s).1 = .error f) (hs : s.files.Reachable)
    (on : e.settings.enabled = true) :
    e.Abandons root s (e.exchanges root clock s) (e.buildDir root clock s).2.files f := by
  obtain ⟨s', passes, hx, hf⟩ := @buildDir_passes_traced _ _ _ e root clock s on
  rw [h] at passes hf
  have hf : (e.buildDir root clock s).2.files = s'.files := hf
  rw [hx, hf]
  have clean := (@Artifact.clean_find? e.workspace.outputDir _ hs.normal).2
  have opening {m : MemoryStore}
      (same : m.files = (Artifact.clean fileSystem e.workspace.outputDir s.files).files) :
      ∀ p, ¬ e.HasArtifact m p := by
    intro p hp
    rw [hasArtifact_iff he, same] at hp
    exact hp.2 (clean _ hp.1)
  cases passes with
  | notTaken taken => exact .nothing (opening (files_of_intakeFrom (e := e.traced) he taken))
  | noUnits taken => exact .nothing (opening (files_of_intakeFrom (e := e.traced) he taken))
  | noReferences taken _ refs =>
    exact .nothing (opening ((files_of_takeReferences (e := e.traced) he refs).trans
      (files_of_intakeFrom (e := e.traced) he taken)))
  | stopped taken _ refs groups =>
    have opening := opening ((files_of_takeReferences (e := e.traced) he refs).trans
      (files_of_intakeFrom (e := e.traced) he taken))
    obtain ⟨hm, done, g, rest, as, last, hg, hk, hxs, hl, hname, hexhausted⟩ := groups.stopped
    obtain ⟨changes, made, did⟩ := groups.made
    rw [traced_store, he] at did
    refine .earlier ((e.intake_eq_traced root s).trans (congrArg Prod.fst taken)) hg ?kind ?isLast
      hname hexhausted hk made fun p => ?present
    case kind => rw [BuildFailure.ofService, if_pos hm]
    case isLast =>
      rw [hxs, Exchange.attempts_append, Exchange.attempts_map_exchange, List.getLast?_append, hl,
        Option.some_or]
    case present =>
      rw [hasArtifact_iff he, find?_ne_none_of_did did (isRemove_of_made made)]
      refine and_congr_right fun placed => or_iff_right fun before => ?_
      exact opening p ((hasArtifact_iff he).2 ⟨placed, before⟩)

end

theorem reachable_staleOutput : staleOutput.Reachable :=
  reachable_withFiles _

/-- The first library is made, and the compiler runs out of memory over the second. -/
def oneThenFull : List Scripted.EmitAnswer :=
  [.fixed (.answer EmitOutput.standIn), .fixed (.failure (.outOfMemory "heap"))]

theorem buildDir_abandons_first_of_two :
    ∃ f, (inMemory.buildDir ⟨"w/source"⟩ (fun _ => newYear) (.start staleOutput oneThenFull)).1 =
        .error f ∧
      f.kind = .resourceExhausted ∧
      inMemory.Abandons ⟨"w/source"⟩ (.start staleOutput oneThenFull)
        (inMemory.exchanges ⟨"w/source"⟩ (fun _ => newYear) (.start staleOutput oneThenFull))
        (inMemory.buildDir ⟨"w/source"⟩ (fun _ => newYear)
          (.start staleOutput oneThenFull)).2.files f := by
  have fails : FailsAs (inMemory.buildDir ⟨"w/source"⟩ (fun _ => newYear)
      (.start staleOutput oneThenFull)).1 .resourceExhausted := by
    decide +kernel
  obtain ⟨f, failed, kind⟩ := fails
  exact ⟨f, failed, kind, buildDir_abandons rfl failed reachable_staleOutput rfl⟩

/-- A build that fails leaves no artifact in the output directory, if no call that changes the file
system fails. -/
def FailsEmpty : Prop :=
  ∀ (σ ρ : Type) (e : Engine (FileSystem.Recorded MemoryStore) σ ρ),
    e.store = MemoryStore.fileSystem.recorded → e.settings.enabled = true →
    ∀ (root : Path) (clock : Nat → TimeStamp) (m : MemoryStore) (service : σ) (f : BuildFailure),
      m.Reachable → (e.buildDir root clock (.start ⟨m, []⟩ service)).1 = .error f →
      (∀ c ∈ (e.buildDir root clock (.start ⟨m, []⟩ service)).2.files.changes,
        c.succeeds = true) →
      ∀ p, ¬ e.HasArtifact (e.buildDir root clock (.start ⟨m, []⟩ service)).2.files p

/-- The engine over a file system in memory that records its changes. -/
def inRecordedMemory :
    Engine (FileSystem.Recorded MemoryStore) (List Scripted.EmitAnswer) Scripted.Code :=
  inMemory.onStore MemoryStore.fileSystem.recorded

/-- The library of the first group stays when the compiler runs out of memory over the second. -/
theorem not_failsEmpty : ¬ FailsEmpty := by
  intro empty
  have fails : FailsAs (inRecordedMemory.buildDir ⟨"w/source"⟩ (fun _ => newYear)
      (.start ⟨staleOutput, []⟩ oneThenFull)).1 .resourceExhausted := by
    decide +kernel
  have after : (inRecordedMemory.buildDir ⟨"w/source"⟩ (fun _ => newYear)
        (.start ⟨staleOutput, []⟩ oneThenFull)).2.files.changes.all StoreChange.succeeds = true ∧
      inRecordedMemory.store.list inRecordedMemory.workspace.outputDir libraryExtension false
        (inRecordedMemory.buildDir ⟨"w/source"⟩ (fun _ => newYear)
          (.start ⟨staleOutput, []⟩ oneThenFull)).2.files =
        .ok [⟨"w/compiled output/My.dll"⟩] := by
    decide +kernel
  obtain ⟨f, failed, -⟩ := fails
  obtain ⟨succeed, listed⟩ := after
  have none := empty _ _ inRecordedMemory rfl rfl _ _ _ _ _ reachable_staleOutput failed
    (List.all_eq_true.1 succeed)
  exact none _ ⟨libraryExtension, Artifact.library_mem_extensions, _, listed,
    List.mem_singleton_self _⟩

end Engine
end PluginForge
