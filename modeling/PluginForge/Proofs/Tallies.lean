/-
What a report says about the attempts at a group: how many there were and how many imports were
removed in between. Both numbers are counted along the attempts, and the outcome of a group has them
whenever its last attempt is answered, whatever comes of it. A group whose last attempt fails or
crashes is reported as if nothing had been asked for it.
-/
import PluginForge.Proofs.Leftovers
import PluginForge.Proofs.Retry
import PluginForge.Proofs.Traffic
import PluginForge.Proofs.Withholding

namespace PluginForge

open MissingSymbol

variable {φ σ ρ : Type}

theorem Outcome.isAnswer_of_guarded_error {α : Type} {r : Outcome α} {err : ServiceError}
    (h : r.guarded = .error err) : r.isAnswer = false := by
  cases r with
  | answer a => cases h
  | failure e => rfl
  | crash t => rfl

/-! ## One group -/

/-- The attempts `as`, so many of them, between which so many directives went. -/
structure Attempt.Count (attempts removed : Nat) (as : List Attempt) : Prop where
  attempts : attempts = as.length
  removed : ∃ first last, as.head? = some first ∧ as.getLast? = some last ∧
    directives first.request.sources = directives last.request.sources + removed

namespace GroupCompile

/-- In each round the loop has counted the attempts made, and the directives removed so far are those
that are missing in its request. -/
theorem Run.tally {retries attempts removed : Nat} {request : EmitRequest} {as : List Attempt}
    {c : GroupCompile} (h : Run retries attempts removed request as (.ok c)) :
    c.attempts = attempts + as.length ∧ ∃ last, as.getLast? = some last ∧
      removed + directives request.sources = directives last.request.sources + c.removedImports := by
  generalize hr : Except.ok c = result at h
  induction h with
  | fault => cases hr
  | success | stop =>
    cases hr
    exact ⟨rfl, _, rfl, Nat.add_comm ..⟩
  | @retry retries attempts removed request output as result _ _ hn ih =>
    obtain ⟨hattempts, last, hlast, hremoved⟩ := ih hr
    obtain ⟨answer, rest, rfl⟩ := hn.head
    have gone : directives (repaired request output).sources + removable request output =
        directives request.sources := directives_prune _ _
    refine ⟨?_, last, by rw [List.getLast?_cons_cons, hlast], ?_⟩
    · rw [hattempts]
      simp only [List.length_cons]
      omega
    · omega

theorem Run.count {retries : Nat} {request : EmitRequest} {as : List Attempt} {c : GroupCompile}
    (h : Run retries 0 0 request as (.ok c)) : Attempt.Count c.attempts c.removedImports as := by
  obtain ⟨hattempts, last, hlast, hremoved⟩ := h.tally
  obtain ⟨answer, rest, rfl⟩ := h.head
  rw [Nat.zero_add] at hattempts hremoved
  exact ⟨hattempts, _, last, rfl, hlast, hremoved⟩

end GroupCompile

namespace CompilationGroup

variable {service : CompileService σ ρ} {settings : Settings} {references : List Path}
  {g : CompilationGroup} {s : CompileState σ} {c : GroupCompile}

/-- A compile counts at most one attempt more than retries are allowed, and than there are directives
in its sources. -/
theorem compile_attempts_le (h : (g.compile service settings references s).1 = .ok c) :
    c.attempts ≤ min settings.retryCount.toNat (directives g.sources) + 1 := by
  have run := g.attempts_run service settings references s
  rw [h] at run
  rw [run.count.attempts]
  exact run.length_le_min

/-- A word of 32 bits holds the number of attempts, unless there are as many retries and directives as
such a word can say. -/
theorem compile_attempts_lt (h : (g.compile service settings references s).1 = .ok c)
    (fewer : settings.retryCount.toNat + 1 < UInt32.size ∨
      directives g.sources + 1 < UInt32.size) : c.attempts < UInt32.size := by
  have bound := compile_attempts_le h
  omega

end CompilationGroup

/-- What the outcome of a group says about the attempts at it. -/
structure GroupOutcome.Tallies (o : GroupOutcome) (as : List Attempt) : Prop where
  requests : ∀ a ∈ as, a.request.assemblyName = safeName o.key ∧
    a.request.sources.map SourceFile.path = o.files
  fault : o.stopReason = some .serviceFailure ↔
    ∃ last, as.getLast? = some last ∧ last.answer.isAnswer = false
  counted : o.stopReason ≠ some .serviceFailure →
    Attempt.Count o.attempts o.removedImports as
  /-- What was counted before a fault is forgotten. -/
  forgotten : o.stopReason = some .serviceFailure → o.attempts = 0 ∧ o.removedImports = 0

namespace Engine

variable (e : Engine φ σ ρ)

theorem writeArtifacts_counts (output : EmitOutput) (o : GroupOutcome) (s : EngineState φ σ ρ) :
    (e.writeArtifacts output o s).1.attempts = o.attempts ∧
      (e.writeArtifacts output o s).1.removedImports = o.removedImports ∧
      ((e.writeArtifacts output o s).1.stopReason = o.stopReason ∨
        (e.writeArtifacts output o s).1.stopReason = some .artifactWriteFailed) := by
  unfold writeArtifacts
  split
  · exact ⟨rfl, rfl, .inl rfl⟩
  · exact ⟨rfl, rfl, .inr rfl⟩

theorem writeLog_counts (name : String) (t : TimeStamp) (o : GroupOutcome)
    (s : EngineState φ σ ρ) :
    (e.writeLog name t o s).1.attempts = o.attempts ∧
      (e.writeLog name t o s).1.removedImports = o.removedImports ∧
      (e.writeLog name t o s).1.stopReason = o.stopReason := by
  unfold writeLog
  split <;> exact ⟨rfl, rfl, rfl⟩

/-- An outcome has the numbers of its compile, unless that failed; then it has none. -/
theorem buildGroup_counts {references : List Path} {t : TimeStamp} {g : CompilationGroup}
    {s : EngineState φ σ ρ} {o : GroupOutcome} (h : (e.buildGroup references t g s).1 = .ok o) :
    (∃ err, (e.compileGroup references g s).1 = .error err ∧
        o.stopReason = some .serviceFailure ∧ o.attempts = 0 ∧ o.removedImports = 0) ∨
      ∃ c, (e.compileGroup references g s).1 = .ok c ∧ o.attempts = c.attempts ∧
        o.removedImports = c.removedImports ∧
        (o.stopReason = c.stopReason ∨ o.stopReason = some .artifactWriteFailed) := by
  unfold buildGroup at h
  generalize e.compileGroup references g s = r at h ⊢
  obtain ⟨r, s'⟩ := r
  cases r with
  | error err =>
    dsimp only at h
    split at h
    · cases h
    · cases h
      exact .inl ⟨err, rfl, rfl, rfl, rfl⟩
  | ok c =>
    right
    dsimp only at h
    split at h
    · cases h
      obtain ⟨ha, hr, hs⟩ := e.writeArtifacts_counts c.output (.ofCompile g c) s'
      exact ⟨c, rfl, ha, hr, hs⟩
    · cases h
      obtain ⟨ha, hr, hs⟩ := e.writeLog_counts g.displayName t (.ofCompile g c) s'
      exact ⟨c, rfl, ha, hr, .inl hs⟩

theorem buildGroup_tallies {references : List Path} {t : TimeStamp} {g : CompilationGroup}
    {s s' : EngineState φ (Traced σ ρ) ρ} {o : GroupOutcome}
    (h : e.traced.buildGroup references t g s = (.ok o, s')) :
    ∃ as, s'.service.exchanges = s.service.exchanges ++ as.map Attempt.exchange ∧
      o.Tallies as := by
  obtain ⟨as, hx, hrun⟩ := e.buildGroup_run references t g s
  obtain ⟨-, frame⟩ := e.traced.buildGroup_frame references t g s
  obtain ⟨hkey, hfiles⟩ := frame o (congrArg Prod.fst h)
  have requests : ∀ a ∈ as, a.request.assemblyName = safeName o.key ∧
      a.request.sources.map SourceFile.path = o.files := by
    rw [hkey, hfiles]
    exact hrun.names
  rw [h] at hx
  refine ⟨as, hx, ?_⟩
  rcases e.traced.buildGroup_counts (congrArg Prod.fst h) with
    ⟨err, hc, hs, hzero⟩ | ⟨c, hc, ha, hr, hs⟩
  · rw [hc] at hrun
    obtain ⟨last, hlast, hg⟩ := hrun.getLast_error
    refine ⟨requests, iff_of_true hs ⟨last, hlast, Outcome.isAnswer_of_guarded_error hg⟩,
      fun hn => absurd hs hn, fun _ => hzero⟩
  · rw [hc] at hrun
    obtain ⟨last, hstop⟩ := hrun.stopsAfter
    have hn : o.stopReason ≠ some .serviceFailure := by
      rcases hs with hs | hs
      · rw [hs]
        exact hstop.noOther.1
      · rw [hs]
        exact fun hf => nomatch hf
    refine ⟨requests, iff_of_false hn ?_, fun _ => ?_, fun hs => absurd hs hn⟩
    · rintro ⟨a, hl, hna⟩
      obtain rfl : last = a := Option.some.inj (hstop.isLast.symm.trans hl)
      rw [hstop.output] at hna
      cases hna
    · rw [ha, hr]
      exact hrun.count

/-! ## Builds -/

variable {e}

theorem Builds.tallies {references : List Path} {clock : Nat → TimeStamp} {index : Nat}
    {groups : List CompilationGroup} {s s' : EngineState φ (Traced σ ρ) ρ}
    {outcomes : List GroupOutcome}
    (h : e.traced.Builds references clock index groups s outcomes none s') :
    ∃ runs : List (List Attempt),
      s'.service.exchanges = s.service.exchanges ++ runs.flatten.map Attempt.exchange ∧
      List.Forall₂ GroupOutcome.Tallies outcomes runs := by
  generalize hn : (none : Option ServiceError) = stop at h
  induction h with
  | done => exact ⟨[], (List.append_nil _).symm, .nil⟩
  | next built _ ih =>
    obtain ⟨as, hx, ht⟩ := e.buildGroup_tallies built
    obtain ⟨runs, hxs, hts⟩ := ih hn
    refine ⟨as :: runs, ?_, .cons ht hts⟩
    rw [hxs, hx, List.flatten_cons, List.map_append, List.append_assoc]
  | ended => cases hn

/-- The attempts of a build that ends with a report are those at its groups, one group after the
other, and the outcome of a group gives their number and that of the imports removed between them,
unless the last of them was not answered. -/
theorem buildDir_tallies {root : Path} {clock : Nat → TimeStamp} {s : EngineState φ σ ρ}
    {report : BuildReport} (h : (e.buildDir root clock s).1 = .ok report) :
    ∃ runs, Exchange.attempts (e.exchanges root clock s) = runs.flatten ∧
      List.Forall₂ GroupOutcome.Tallies report.groups runs := by
  obtain ⟨s', passes, hx, -⟩ := @buildDir_passes_traced _ _ _ e root clock s (enabled_of_report h)
  rw [h] at passes
  cases passes with
  | reported taken units refs groups =>
    obtain ⟨paths, parses, intake, hp, ht, -⟩ := e.intakeFrom_traffic taken
    obtain ⟨runs, hr, tallies⟩ := groups.tallies
    refine ⟨runs, ?_, tallies⟩
    have hs : s'.service.exchanges = parses ++ runs.flatten.map Attempt.exchange := by
      rw [hr, service_of_takeReferences refs]
      exact congrArg (· ++ _) hp
    rw [hx, hs, Exchange.attempts_append, ht.attempts, Exchange.attempts_map_exchange,
      List.nil_append]

/-- A source that the compiler is asked for twice, the second time without its import. -/
def lostImport : MemoryStore :=
  oneSource "using Old.Api;\nnamespace Foo { }"

theorem buildDir_tallies_lost_import :
    ∃ report runs,
      (inMemory.buildDir ⟨"w/source"⟩ (fun _ => newYear)
        (.start lostImport [.blameFirstImport])).1 = .ok report ∧
      report.groups.map (fun o => (o.stopReason, o.attempts, o.removedImports)) =
        [(none, 2, 1)] ∧
      Exchange.attempts (inMemory.exchanges ⟨"w/source"⟩ (fun _ => newYear)
        (.start lostImport [.blameFirstImport])) = runs.flatten ∧
      List.Forall₂ GroupOutcome.Tallies report.groups runs := by
  obtain ⟨report, h, groups, -⟩ := @exists_report _ _
    (inMemory.buildDir ⟨"w/source"⟩ (fun _ => newYear)
      (.start lostImport [.blameFirstImport])).1
    (fun o => (o.stopReason, o.attempts, o.removedImports)) (none, 2, 1) [] (by decide +kernel)
  obtain ⟨runs, hx, tallies⟩ := buildDir_tallies h
  exact ⟨report, runs, h, groups, hx, tallies⟩

/-- In a build that ends with a report, every outcome gives the number of attempts at its group and
that of the imports by which the last request has fewer than the first. -/
def CountsAttempts : Prop :=
  ∀ (φ σ ρ : Type) (e : Engine φ σ ρ) (root : Path) (clock : Nat → TimeStamp)
    (s : EngineState φ σ ρ) (report : BuildReport), (e.buildDir root clock s).1 = .ok report →
    ∃ runs, Exchange.attempts (e.exchanges root clock s) = runs.flatten ∧
      List.Forall₂ (fun o as => Attempt.Count o.attempts o.removedImports as) report.groups runs

/-- A crash in the second attempt makes the first one and the removed import forgotten. -/
theorem not_countsAttempts : ¬ CountsAttempts := by
  intro counts
  obtain ⟨report, h, groups, -⟩ := @exists_report _ _
    (inMemory.buildDir ⟨"w/source"⟩ (fun _ => newYear)
      (.start lostImport [.blameFirstImport, .fixed (.failure (.crashed "boom"))])).1
    GroupOutcome.attempts 0 [] (by decide +kernel)
  have made : (Exchange.attempts (inMemory.exchanges ⟨"w/source"⟩ (fun _ => newYear)
      (.start lostImport [.blameFirstImport, .fixed (.failure (.crashed "boom"))]))).length = 2 := by
    decide +kernel
  obtain ⟨runs, hx, hcount⟩ := counts _ _ _ _ _ _ _ _ h
  obtain ⟨o, ho, zero⟩ := List.map_eq_singleton_iff.1 groups
  rw [ho] at hcount
  obtain ⟨as, none, count, last, rfl⟩ := List.forall₂_cons_left_iff.1 hcount
  rw [List.forall₂_nil_left_iff.1 last] at hx
  rw [hx, List.flatten_singleton, ← count.attempts, zero] at made
  cases made

end Engine
end PluginForge
