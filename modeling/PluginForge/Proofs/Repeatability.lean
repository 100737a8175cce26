/-
Builds are repeatable. A build over a file system in memory that ends with a report can be made
again at once: the second build sends the same requests, reports the same but for the times in the
names of its logs, and leaves the same libraries and debug symbols, as long as the compiler answers
by what it is asked and no change of the file system fails.

What the first build leaves behind are products. Its artifacts are cleared before the second build
looks at anything, so the second starts from files that differ from those of the first in logs
alone, and logs are neither sources nor candidates for references.
-/
import PluginForge.Proofs.Agreement
import PluginForge.Proofs.Cycles
import PluginForge.Proofs.Interference

namespace PluginForge

open MemoryStore

variable {φ σ ρ : Type}

/-! ## Builds that take in the same -/

/-- Two reports that differ at most in the times in the names of logs. -/
structure BuildReport.SameAt (logs : Path) (r r' : BuildReport) : Prop where
  files : r.files = r'.files
  skipped : r.skipped = r'.skipped
  groups : List.Forall₂ (GroupOutcome.SameAt logs) r.groups r'.groups

namespace Engine

variable {e : Engine φ σ ρ}

/-- In a build with a report, the compiler never runs out of memory. -/
theorem not_exhausted_of_report {root : Path} {clock : Nat → TimeStamp} {s : EngineState φ σ ρ}
    {report : BuildReport} (h : (e.buildDir root clock s).1 = .ok report) :
    ∀ x ∈ e.exchanges root clock s, x.isExhausted = false := by
  have course := e.buildDir_course root clock s
  rw [h] at course
  generalize e.exchanges root clock s = xs at course
  cases course with
  | reported _ _ _ _ _ halts =>
    cases halts with
    | never calm => exact calm

/-- Groups that are not built to the end have one whose attempts end for want of memory. -/
theorem Builds.refused {references : List Path} {clock : Nat → TimeStamp} {index : Nat}
    {groups : List CompilationGroup} {s s' : EngineState φ (Traced σ ρ) ρ}
    {outcomes : List GroupOutcome} {err : ServiceError}
    (h : e.traced.Builds references clock index groups s outcomes (some err) s') :
    err.isOutOfMemory = true ∧ ∃ g ∈ groups, ∃ as : List Attempt,
      (∀ a ∈ as, a.exchange ∈ s'.service.exchanges) ∧
        GroupCompile.Run e.settings.retryCount.toNat 0 0
          (g.request e.settings.languageVersion references) as (.error err) := by
  generalize hs : some err = stop at h
  induction h with
  | done => cases hs
  | next _ _ ih =>
    obtain ⟨hm, g, hg, rest⟩ := ih hs
    exact ⟨hm, g, List.mem_cons_of_mem _ hg, rest⟩
  | ended refused =>
    cases hs
    obtain ⟨hm, as, hx, run⟩ := buildGroup_refused_run refused
    refine ⟨hm, _, List.mem_cons_self, as, fun a ha => ?_, run⟩
    rw [hx]
    exact List.mem_append_right _ (List.mem_map_of_mem ha)

/-- A build from `s'` finds some sources and takes some references, and it reads of the sources what
one from `s` reads. -/
structure StartsAlike (e : Engine φ σ ρ) (root : Path) (paths references : List Path)
    (s s' : EngineState φ σ ρ) : Prop where
  found : Intake.discover e.store e.settings root (e.cleared s') = (.ok paths, e.cleared s')
  reads : ∀ p ∈ paths, Intake.readUnit e.store p (e.cleared s) =
    Intake.readUnit e.store p (e.cleared s')
  resolves : e.referenceSet s' = .ok references

section

variable {parse : SourceFile → LanguageVersion → Outcome SyntaxTree}
  {emit : EmitRequest → Outcome EmitOutput} {root : Path} {s s' : EngineState φ σ ρ}
  {report report' : BuildReport} {xs xs' : List (Exchange ρ)} {left left' : φ}
  {paths paths' : List Path} {parses parses' : List (Exchange ρ)} {intake intake' : IntakeReport}
  {references references' : List Path} {ds ds' : List Delivery}
  (h : e.Delivers root s report xs left paths parses intake references ds)

include h

theorem Delivers.found :
    Intake.discover e.store e.settings root (e.cleared s) = (.ok paths, e.cleared s) := by
  have taken := h.taken
  unfold Engine.intake Intake.ingest at taken
  cases hd : Intake.discover e.store e.settings root (e.cleared s) with | mk r files =>
  rw [hd] at taken
  cases r with
  | error err => cases taken
  | ok paths' =>
    obtain ⟨list, rfl⟩ := Intake.discover_eq_ok hd
    rw [Except.ok.inj (list.symm.trans h.listed)]

theorem Delivers.paths_ne_nil : paths ≠ [] := by
  rintro rfl
  cases h.parsed
  exact h.some rfl

variable (answered : ∀ x ∈ xs, x.AnsweredBy parse emit)

include answered

/-- Attempts at a group of the build, made again, do not end for want of memory. -/
theorem Delivers.not_refused (calm : ∀ x ∈ xs, x.isExhausted = false) {g : CompilationGroup}
    (hg : g ∈ CompilationGroup.partition e.settings.pluginBaseType intake.units)
    {as : List Attempt} {err : ServiceError}
    (run : GroupCompile.Run e.settings.retryCount.toNat 0 0
      (g.request e.settings.languageVersion references) as (.error err))
    (again : ∀ a ∈ as, a.answer = emit a.request) : err.isOutOfMemory = false := by
  rw [← h.groups] at hg
  obtain ⟨d, hd, rfl⟩ := List.mem_map.1 hg
  obtain ⟨rfl, -⟩ := (h.runs d hd).unique run ((h.answered answered).2 d hd) again
  obtain ⟨last, hl, guarded⟩ := run.getLast_error
  have asked : last.exchange ∈ xs := by
    rw [h.exchanges]
    exact List.mem_append_right _ (List.mem_map_of_mem
      (List.mem_flatMap.2 ⟨d, hd, List.mem_of_getLast? hl⟩))
  exact (Outcome.isExhausted_eq_ends guarded).symm.trans (calm _ asked)

variable (start : e.StartsAlike root paths references s s')

include start

/-- Sources that are found and read again are taken in again. -/
theorem Delivers.intake_again {r : Except IntakeError IntakeReport} {files : φ}
    {service : Traced σ ρ}
    (taken : e.traced.intakeFrom root s'.traceStart = (r, files, service))
    (again : ∀ x ∈ service.exchanges, x.AnsweredBy parse emit) :
    r = .ok intake ∧ files = e.cleared s' := by
  obtain ⟨ys, r', hy, hr, ht⟩ := Intake.ingestAll_taken e.service e.store e.settings
    (e.cleared s') ⟨[], []⟩ paths (Traced.start s'.service)
  have ingested : e.traced.intakeFrom root s'.traceStart =
      ((Intake.ingestAll e.store e.service.traced e.settings (e.cleared s') ⟨[], []⟩ paths
        (.start s'.service)).1, e.cleared s',
        (Intake.ingestAll e.store e.service.traced e.settings (e.cleared s') ⟨[], []⟩ paths
          (.start s'.service)).2) := by
    change Intake.ingest e.store e.service.traced e.settings root (e.cleared s')
      (.start s'.service) = _
    rw [Intake.ingest, start.found]
  rw [ingested] at taken
  obtain ⟨rfl, rfl, rfl⟩ := taken
  have first : ∀ x ∈ parses, x.AnsweredBy parse emit := (h.answered answered).1
  rw [hy] at again
  obtain ⟨-, rfl⟩ := h.parsed.unique ht start.reads first again
  exact ⟨hr, rfl⟩

/-- A build that finds and reads the same sources and takes the same references as one that ended
with a report ends with a report. -/
theorem Delivers.report_again (answers : e.service.AnswersBy parse emit)
    (on : e.settings.enabled = true) (calm : ∀ x ∈ xs, x.isExhausted = false)
    (clock : Nat → TimeStamp) :
    ∃ report', (e.buildDir root clock s').1 = .ok report' := by
  obtain ⟨t, passes, hx, -⟩ := @buildDir_passes_traced _ _ _ e root clock s' on
  have again := exchanges_answeredBy answers root clock s'
  rw [hx] at again
  have referenced {files : φ} {service : Traced σ ρ} {r : Except ReferenceError (List Path)}
      {t : EngineState φ (Traced σ ρ) ρ} (same : files = e.cleared s')
      (taken : e.traced.takeReferences (s'.traceStart.takenIn files service) = (r, t)) :
      r = .ok references := by
    subst same
    exact (congrArg Prod.fst taken).symm.trans start.resolves
  generalize (e.buildDir root clock s').1 = r at passes ⊢
  cases passes with
  | notTaken taken =>
    obtain ⟨hr, -⟩ := h.intake_again answered start taken again
    cases hr
  | noUnits taken none =>
    obtain ⟨hr, -⟩ := h.intake_again answered start taken again
    cases hr
    exact absurd none h.some
  | noReferences taken _ refs' =>
    rw [service_of_takeReferences refs'] at again
    obtain ⟨-, files⟩ := h.intake_again answered start taken again
    cases referenced files refs'
  | stopped taken _ refs' groups =>
    obtain ⟨ys, hy, -, -⟩ := groups.halts
    rw [service_of_takeReferences refs'] at hy
    obtain ⟨hr, files⟩ := h.intake_again answered start taken fun x hm =>
      again x (hy ▸ List.mem_append_left ys hm)
    cases hr
    cases referenced files refs'
    obtain ⟨mem, g, hg, as, attempted, run⟩ := groups.refused
    have kept := h.not_refused answered calm hg run fun a ha => again _ (attempted a ha)
    exact absurd (kept.symm.trans mem) Bool.false_ne_true
  | reported => exact ⟨_, rfl⟩

/-- Such builds deliver the same. -/
theorem Delivers.same
    (h' : e.Delivers root s' report' xs' left' paths' parses' intake' references' ds')
    (answered' : ∀ x ∈ xs', x.AnsweredBy parse emit) :
    report.SameAt e.workspace.logsDir report' ∧ xs = xs' ∧ List.Forall₂ Delivery.SameAs ds ds' := by
  obtain ⟨parsed, emitted⟩ := h.answered answered
  obtain ⟨parsed', emitted'⟩ := h'.answered answered'
  obtain rfl : paths = paths' :=
    Except.ok.inj ((Intake.discover_eq_ok start.found).1.symm.trans h'.listed)
  obtain rfl : references = references' :=
    Except.ok.inj (start.resolves.symm.trans h'.resolves)
  obtain ⟨rfl, taken⟩ := h.parsed.unique h'.parsed start.reads parsed parsed'
  obtain rfl : intake = intake' := Except.ok.inj taken
  have same := Delivery.sameAs_of_groups (h.groups.trans h'.groups.symm) h.runs h'.runs emitted
    emitted'
  refine ⟨?_, ?_, same⟩
  · rw [h.reports, h'.reports]
    exact ⟨rfl, rfl, Delivery.outcomes_of_sameAs same e.workspace⟩
  · rw [h.exchanges, h'.exchanges, Delivery.attempts_of_sameAs same]

end

end Engine

/-! ## Deliveries again -/

/-- The libraries and the debug symbols among the files, wherever they lie. -/
def MemoryStore.artifacts (m : MemoryStore) : List (String × Bytes) :=
  m.files.filter fun f => Artifact.extensions.any (Path.mk f.1).hasExtension

/-- A file with one of these extensions is not a log. -/
theorem MemoryStore.not_liesIn_logs {dir : Path} {extension : String}
    (h : extension ∈ Intake.sourceExtension :: Artifact.extensions) {name : String}
    (hx : (Path.mk name).hasExtension extension = true) : ¬ LiesIn dir logExtension name := by
  rintro ⟨-, -, -, hl⟩
  have other : ∀ ext ∈ Intake.sourceExtension :: Artifact.extensions, ext ≠ "" ∧
      Chars.lowerAscii (ext.toList.dropWhile (· == '.')) ≠
        Chars.lowerAscii (logExtension.toList.dropWhile (· == '.')) := by decide
  obtain ⟨some, other⟩ := other extension h
  exact other (Path.hasExtension_unique some (by decide) hx hl)

/-- What is done for a group and for the same group at another time differs in its log alone. -/
theorem Delivery.SameAs.changes {d d' : Delivery} (h : SameAs d d') (w : Workspace)
    (style : Report.LogStyle) :
    List.Forall₂ (StoreChange.AlikeBut (LiesIn w.logsDir logExtension)) (d.changes w style)
      (d'.changes w style) := by
  rw [SameAs] at h
  rw [h]
  unfold Delivery.changes
  have same : ∀ changes : List StoreChange,
      List.Forall₂ (StoreChange.AlikeBut (LiesIn w.logsDir logExtension)) changes changes :=
    fun changes => List.forall₂_same.2 fun c _ => .inl rfl
  cases d.result with
  | error err => exact .nil
  | ok c =>
    dsimp only
    split
    · exact same _
    · exact .cons (.inl rfl) (.cons (.inr ⟨w.liesIn_log _ _, w.liesIn_log _ _⟩) .nil)

namespace Engine

section

variable {e : Engine MemoryStore σ ρ} (he : e.store = fileSystem)

include he

theorem leftAfter_confined (report : BuildReport) {m : MemoryStore} (hm : m.Normal) :
    Confined (LiesIn e.workspace.logsDir logExtension) m (e.leftAfter report m) := by
  unfold leftAfter
  split
  · rw [he]
    exact FailureLog.clear_confined hm
  · exact .refl

theorem opened_files (s : EngineState MemoryStore σ ρ) :
    (e.opened s).files = (e.cleared s).files := by
  rw [opened, he]
  exact Reference.getOrResolve_files e.settings e.roots s.references (e.cleared s)

theorem keeps_reachable : e.store.Keeps Reachable := by
  rw [he]
  exact ⟨fun p content _ h => h.write p content, fun p _ h => h.remove p, fun p _ h => h.makeDir p⟩

variable {s s' : EngineState MemoryStore σ ρ} (hs : s.files.Reachable)

include hs

theorem reachable_cleared : (e.cleared s).Reachable :=
  Artifact.clean_keeps (keeps_reachable he) e.workspace.outputDir hs

/-- Once the artifacts are cleared, all that is left of a build are its logs. -/
theorem cleared_agree (root : Path) (clock : Nat → TimeStamp) :
    Agree (LiesIn e.workspace.logsDir logExtension) (e.cleared s)
      (e.cleared (e.buildDir root clock s).2) := by
  intro name hn
  have built := buildDir_confined he root clock hs.normal
  have normal := built.normal hs.normal
  rw [cleared, cleared, he]
  by_cases placed : Artifact.IsPlaced e.workspace.outputDir name
  · rw [(Artifact.clean_find? hs.normal).2 name placed, (Artifact.clean_find? normal).2 name placed]
  · have other : ¬ e.workspace.IsProduct name := fun product =>
      (Workspace.isProduct_iff.1 product).elim placed fun hl =>
        hn ((isListed_iff_liesIn e.workspace.endsPlain_logsDir).1 hl)
    rw [(Artifact.clean_confined hs.normal).find name other,
      (Artifact.clean_confined normal).find name other, built.find name other]

end

section

variable {e : Engine MemoryStore σ ρ} (he : e.store = fileSystem)

include he

variable {root : Path} {s s' : EngineState MemoryStore σ ρ} {report report' : BuildReport}
  {xs xs' : List (Exchange ρ)} {left left' : MemoryStore} {paths paths' : List Path}
  {parses parses' : List (Exchange ρ)} {intake intake' : IntakeReport}
  {references references' : List Path} {ds ds' : List Delivery}
  (h : e.Delivers root s report xs left paths parses intake references ds)
  (hs : s.files.Reachable) (hs' : s'.files.Reachable)
  (agree : Agree (LiesIn e.workspace.logsDir logExtension) (e.cleared s) (e.cleared s'))

include h hs hs' agree

/-- Logs are neither sources nor references. -/
theorem Delivers.startsAlike (kept : s.references = none) (kept' : s'.references = none)
    (outside : ∀ p ∈ Reference.hostPaths e.settings e.roots ++
      Reference.runtimePaths e.settings e.roots,
        ¬ LiesIn e.workspace.logsDir logExtension (normalize p)) :
    e.StartsAlike root paths references s s' := by
  have reach := reachable_cleared he hs
  have reach' := reachable_cleared he hs'
  constructor
  case found =>
    have found := h.found
    rw [he] at found ⊢
    exact Intake.discover_agree agree reach reach'
      (fun _ hx => not_liesIn_logs List.mem_cons_self hx) found h.paths_ne_nil
  case reads =>
    intro p hp
    have listed := h.listed
    rw [he] at listed ⊢
    exact Intake.readUnit_agree agree (not_liesIn_logs List.mem_cons_self
      (reach.normal.hasExtension_of_mem_listed (eq_listed listed ▸ hp)))
  case resolves =>
    have resolves := h.resolves
    rw [referenceSet, he, kept] at resolves
    rw [referenceSet, he, kept']
    exact (Reference.getOrResolve_agree agree reach reach' (fun _ hx => not_liesIn_logs
      (List.mem_cons_of_mem _ Artifact.library_mem_extensions) hx) outside).symm.trans resolves

/-- The same deliveries leave the same files but for logs. -/
theorem Delivers.left_agree
    (h' : e.Delivers root s' report' xs' left' paths' parses' intake' references' ds')
    (same : List.Forall₂ Delivery.SameAs ds ds') :
    Agree (LiesIn e.workspace.logsDir logExtension) left left' := by
  obtain ⟨files, did, rfl⟩ := h.leaves
  obtain ⟨files', did', rfl⟩ := h'.leaves
  rw [he] at did did'
  have opened : Agree (LiesIn e.workspace.logsDir logExtension) (e.opened s) (e.opened s') :=
    (Agree.of_files (opened_files he s)).trans
      (agree.trans (Agree.of_files (opened_files he s').symm))
  have alike := List.rel_flatMap same fun d d' (hd : Delivery.SameAs d d') =>
    hd.changes e.workspace e.logStyle
  have built := opened.did alike did did'
  have normal := (reachable_cleared he hs).normal.of_files (opened_files he s)
  have normal' := (reachable_cleared he hs').normal.of_files (opened_files he s')
  have clear := leftAfter_confined he report (.of_did did normal)
  have clear' := leftAfter_confined he report' (.of_did did' normal')
  exact (Agree.of_confined clear).symm.trans (built.trans (Agree.of_confined clear'))

end

section

variable {e : Engine MemoryStore σ ρ} (he : e.store = fileSystem)

include he

/-- A build that ends with a report over a file system in memory can be made again at once: the
second ends with the same report but for the times in the names of logs, asks for the same libraries
in the same order, and leaves the same libraries and debug symbols. For this no references are kept
at the start, none of the host's and the platform's libraries is a log, the compiler answers by what
it is asked, and no change of the file system fails in either build. -/
theorem buildDir_repeats {parse : SourceFile → LanguageVersion → Outcome SyntaxTree}
    {emit : EmitRequest → Outcome EmitOutput} (answers : e.service.AnswersBy parse emit)
    {root : Path} {clock clock' : Nat → TimeStamp} {s : EngineState MemoryStore σ ρ}
    {report : BuildReport} (hs : s.files.Reachable) (kept : s.references = none)
    (outside : ∀ p ∈ Reference.hostPaths e.settings e.roots ++
      Reference.runtimePaths e.settings e.roots,
        ¬ LiesIn e.workspace.logsDir logExtension (normalize p))
    (ok : (e.buildDir root clock s).1 = .ok report)
    (succeed : ∀ c ∈ e.changes root clock s, c.succeeds = true)
    (succeed' : ∀ c ∈ e.changes root clock' (e.buildDir root clock s).2, c.succeeds = true) :
    ∃ report', (e.buildDir root clock' (e.buildDir root clock s).2).1 = .ok report' ∧
      report.SameAt e.workspace.logsDir report' ∧
      (Exchange.attempts (e.exchanges root clock s)).map Attempt.request =
        (Exchange.attempts (e.exchanges root clock' (e.buildDir root clock s).2)).map
          Attempt.request ∧
      (e.buildDir root clock s).2.files.artifacts =
        (e.buildDir root clock' (e.buildDir root clock s).2).2.files.artifacts := by
  obtain ⟨paths, parses, intake, references, ds, h⟩ := buildDir_delivers ok succeed
  have answered := exchanges_answeredBy answers root clock s
  have calm := not_exhausted_of_report ok
  have released := references_buildDir (e := e) root clock kept
  have agree := cleared_agree he hs root clock
  have reach := buildDir_keeps_files (keeps_reachable he) root clock hs
  generalize (e.buildDir root clock s).2 = s' at *
  have start := h.startsAlike he hs reach agree kept released outside
  obtain ⟨report', ok'⟩ := h.report_again answered start answers (enabled_of_report ok) calm clock'
  obtain ⟨paths', parses', intake', references', ds', h'⟩ := buildDir_delivers ok' succeed'
  have answered' := exchanges_answeredBy answers root clock' s'
  obtain ⟨sameReport, sameExchanges, same⟩ := h.same answered start h' answered'
  refine ⟨report', ok', sameReport, by rw [sameExchanges], ?_⟩
  have left := h.left_agree he hs reach agree h' same
  have again := buildDir_keeps_files (keeps_reachable he) root clock' reach
  refine left.filter_eq reach.sorted again.sorted
    (fun name => Artifact.extensions.any (Path.mk name).hasExtension) fun name hx => ?_
  obtain ⟨ext, hm, hx⟩ := List.any_eq_true.1 hx
  exact not_liesIn_logs (List.mem_cons_of_mem _ hm) hx

end

/-- The report of a build, with its groups, and the success of all changes of this build and of the
next, from one look at the build. -/
theorem exists_report_recorded_twice (e : Engine φ σ ρ) (root : Path)
    (clock clock' : Nat → TimeStamp) (s : EngineState φ σ ρ) {α : Type} (f : GroupOutcome → α)
    (as : List α)
    (h : (fun b : Except BuildFailure BuildReport × EngineState (FileSystem.Recorded φ) σ ρ =>
      ((b.1.toOption.map (·.groups.map f), b.2.files.changes.all StoreChange.succeeds),
        (e.changes root clock' (b.2.mapFiles FileSystem.Recorded.state)).all StoreChange.succeeds))
        (e.recorded.buildDir root clock s.recordStart) = ((some as, true), true)) :
    ∃ report, (e.buildDir root clock s).1 = .ok report ∧ report.groups.map f = as ∧
      (∀ c ∈ e.changes root clock s, c.succeeds = true) ∧
      ∀ c ∈ e.changes root clock' (e.buildDir root clock s).2, c.succeeds = true := by
  obtain ⟨first, second⟩ := Prod.mk.inj h
  obtain ⟨report, ok, groups, succeed⟩ := e.exists_report_recorded root clock s f as first
  have next : (e.buildDir root clock s).2 = _ :=
    congrArg Prod.snd (e.buildDir_recorded root clock s)
  rw [next]
  exact ⟨report, ok, groups, succeed, List.all_eq_true.1 second⟩

/-- The compiler that misses names, beside a host. -/
def hosted : Engine MemoryStore Unit Scripted.Code :=
  { troubled with roots := .ofWorkspace ⟨⟨"w"⟩⟩ (some ⟨"host"⟩) none }

/-- Two plugins of which one fails to compile, a library of the host, and one of an earlier build.
-/
def builtBefore : MemoryStore :=
  .withFiles [
    (⟨"host/ServerPlugins/TShockAPI.dll"⟩, standInLibrary),
    (⟨"w/compiled output/Old.dll"⟩, [0]),
    (⟨"w/source/b.cs"⟩, Encoding.toUtf8 "using Api;\nnamespace My {}"),
    (⟨"w/source/c.cs"⟩, Encoding.toUtf8 "namespace It {}")]

theorem buildDir_repeats_an_hour_later :
    ∃ report report',
      (hosted.buildDir ⟨"w/source"⟩ (fun _ => newYear) (.start builtBefore ())).1 = .ok report ∧
      report.groups.map (fun o => (o.key, o.success)) = [("My", true), ("It", false)] ∧
      (hosted.buildDir ⟨"w/source"⟩ (fun _ => { newYear with hour := 1 })
        (hosted.buildDir ⟨"w/source"⟩ (fun _ => newYear) (.start builtBefore ())).2).1 =
          .ok report' ∧
      report.SameAt hosted.workspace.logsDir report' ∧
      (hosted.buildDir ⟨"w/source"⟩ (fun _ => newYear) (.start builtBefore ())).2.files.artifacts =
        (hosted.buildDir ⟨"w/source"⟩ (fun _ => { newYear with hour := 1 })
          (hosted.buildDir ⟨"w/source"⟩ (fun _ => newYear)
            (.start builtBefore ())).2).2.files.artifacts := by
  have outside : ∀ p ∈ Reference.hostPaths hosted.settings hosted.roots ++
      Reference.runtimePaths hosted.settings hosted.roots,
        ¬ hosted.workspace.IsProduct (normalize p) := by
    decide +kernel
  obtain ⟨report, ok, groups, succeed, succeed'⟩ := hosted.exists_report_recorded_twice
    ⟨"w/source"⟩ (fun _ => newYear) (fun _ => { newYear with hour := 1 }) (.start builtBefore ())
    (fun o => (o.key, o.success)) [("My", true), ("It", false)] (by decide +kernel)
  obtain ⟨report', ok', same, -, artifacts⟩ := buildDir_repeats (e := hosted) rfl
    (Scripted.ruled_answersBy _) (reachable_withFiles _) rfl
    (fun p hp hl => outside p hp (.inr hl)) ok succeed succeed'
  exact ⟨report, report', ok, groups, ok', same, artifacts⟩

end Engine
end PluginForge
