/-
The artifacts of a build over a file system in memory. If all of them could be written and no two
groups go under one safe name, then what lies in the output directory at the end are the artifacts
that the report lists, with the bytes of the last output of each group, and nothing of any earlier
build.
-/
import PluginForge.Proofs.Accounting
import PluginForge.Proofs.OutputDir

namespace PluginForge

open MemoryStore

variable {σ ρ : Type}

/-! ## What groups leave behind -/

namespace Exchange

/-- The last attempt at a library of some name. -/
def lastAttempt? (name : String) (xs : List (Exchange ρ)) : Option Attempt :=
  ((attempts xs).filter fun a => a.request.assemblyName = name).getLast?

end Exchange

/-- The artifacts that a group leaves behind, given the attempts at it: those of the last output if
it succeeds, and none if it fails. -/
inductive GroupOutcome.Leaves (dir : Path) (o : GroupOutcome) (as : List Attempt) :
    List (Path × Bytes) → Prop
  | artifacts {request output} (last : as.getLast? = some ⟨request, .answer output⟩)
      (compiled : output.success = true) (success : o.success = true)
      (listed : o.artifacts = (Artifact.ofOutput dir o.key output).map Prod.fst) :
      Leaves dir o as (Artifact.ofOutput dir o.key output)
  | nothing (success : o.success = false) (listed : o.artifacts = []) : Leaves dir o as []

/-- What groups leave behind that are built one after the other, each with its own attempts. -/
inductive GroupsLeave (dir : Path) :
    List GroupOutcome → List (List Attempt) → List (Path × Bytes) → Prop
  | nil : GroupsLeave dir [] [] []
  | cons {o as made outcomes runs written}
      (names : ∀ a ∈ as, a.request.assemblyName = safeName o.key) (h : o.Leaves dir as made)
      (rest : GroupsLeave dir outcomes runs written) :
      GroupsLeave dir (o :: outcomes) (as :: runs) (made ++ written)

namespace Engine

section

variable {e : Engine MemoryStore σ ρ} (he : e.store = MemoryStore.fileSystem)

include he

theorem writeArtifacts_leaves {output : EmitOutput} {o : GroupOutcome} {as : List Attempt}
    {request : EmitRequest} {s : EngineState MemoryStore (Traced σ ρ) ρ} (hn : s.files.Normal)
    (last : as.getLast? = some ⟨request, .answer output⟩) (compiled : output.success = true)
    (hw : (e.traced.writeArtifacts output o s).1.stopReason ≠ some .artifactWriteFailed) :
    ∃ made, (e.traced.writeArtifacts output o s).1.Leaves e.workspace.outputDir as made ∧
      Writes e.workspace.outputDir s.files (e.traced.writeArtifacts output o s).2.files made := by
  unfold writeArtifacts at hw ⊢
  simp only [traced_store, traced_workspace, he] at hw ⊢
  rcases hr : Artifact.write fileSystem e.workspace.outputDir o.key output s.files with ⟨r, files⟩
  rw [hr] at hw
  cases r with
  | error err => exact absurd rfl hw
  | ok artifacts =>
    obtain ⟨hf, ha⟩ := Artifact.write_writes hn hr
    exact ⟨_, .artifacts last compiled rfl ha, hf⟩

theorem writeLog_writes (name : String) (t : TimeStamp) (o : GroupOutcome)
    (s : EngineState MemoryStore (Traced σ ρ) ρ) (hn : s.files.Normal) :
    Writes e.workspace.outputDir s.files (e.traced.writeLog name t o s).2.files [] ∧
      (e.traced.writeLog name t o s).1.success = o.success ∧
      (e.traced.writeLog name t o s).1.artifacts = o.artifacts := by
  have hw := @FailureLog.write_writes e.workspace.outputDir _ _ e.workspace.endsPlain_logsDir hn
    e.traced.logStyle o.key name o.diagnostics t
  unfold writeLog
  simp only [traced_store, traced_workspace, he]
  generalize FailureLog.write fileSystem e.traced.logStyle e.workspace.logsDir o.key name
    o.diagnostics t s.files = r at hw ⊢
  obtain ⟨r, files⟩ := r
  cases r <;> exact ⟨hw, rfl, rfl⟩

/-- What a group leaves behind is what is written for it. -/
theorem buildGroup_leaves {references : List Path} {t : TimeStamp} {g : CompilationGroup}
    {s s' : EngineState MemoryStore (Traced σ ρ) ρ} {o : GroupOutcome} (hn : s.files.Normal)
    (h : e.traced.buildGroup references t g s = (.ok o, s'))
    (hw : o.stopReason ≠ some .artifactWriteFailed) :
    ∃ as made, s'.service.exchanges = s.service.exchanges ++ as.map Attempt.exchange ∧
      (∀ a ∈ as, a.request.assemblyName = safeName o.key) ∧
      o.Leaves e.workspace.outputDir as made ∧
      Writes e.workspace.outputDir s.files s'.files made := by
  obtain ⟨as, hx, hr⟩ := GroupCompile.compileFrom_run e.service e.settings.retryCount.toNat 0 0
    (g.request e.settings.languageVersion references) ⟨s.service, s.phases⟩
  obtain ⟨hservice, hframe⟩ := e.traced.buildGroup_frame references t g s
  rw [h] at hservice hframe
  have hkey := (hframe o rfl).1
  have hnames : ∀ a ∈ as, a.request.assemblyName = safeName o.key := by
    rw [hkey]
    exact hr.forall_request (P := fun r => r.assemblyName = safeName g.key) rfl fun _ _ hp => hp
  refine ⟨as, ?_⟩
  rw [show s'.service = _ from hservice]
  suffices hs : ∃ made, o.Leaves e.workspace.outputDir as made ∧
      Writes e.workspace.outputDir s.files s'.files made by
    obtain ⟨made, hs⟩ := hs
    exact ⟨made, hx, hnames, hs⟩
  clear hservice hx
  unfold buildGroup compileGroup CompilationGroup.compile at h
  simp only [traced_service, traced_settings] at h
  generalize GroupCompile.compileFrom e.service.traced e.settings.retryCount.toNat 0 0
    (g.request e.settings.languageVersion references) ⟨s.service, s.phases⟩ = r at h hr
  obtain ⟨r, after⟩ := r
  cases r with
  | error err =>
    dsimp only at h
    split at h
    · cases h
    · cases h
      exact ⟨[], .nothing rfl rfl, .refl hn⟩
  | ok c =>
    obtain ⟨request, hlast, _⟩ := hr.getLast_ok
    dsimp only at h
    split at h
    · rename_i hs
      cases h
      exact e.writeArtifacts_leaves he hn hlast hs hw
    · cases h
      obtain ⟨hf, hsuccess, hartifacts⟩ :=
        e.writeLog_writes he g.displayName t (.ofCompile g c)
          { s with service := after.service, phases := after.phases } hn
      exact ⟨[], .nothing hsuccess hartifacts, hf⟩

theorem Builds.leave {references : List Path} {clock : Nat → TimeStamp} {index : Nat}
    {groups : List CompilationGroup} {s s' : EngineState MemoryStore (Traced σ ρ) ρ}
    {outcomes : List GroupOutcome}
    (h : e.traced.Builds references clock index groups s outcomes none s') (hn : s.files.Normal)
    (hw : ∀ o ∈ outcomes, o.stopReason ≠ some .artifactWriteFailed) :
    ∃ runs written,
      s'.service.exchanges = s.service.exchanges ++ runs.flatten.map Attempt.exchange ∧
      GroupsLeave e.workspace.outputDir outcomes runs written ∧
      Writes e.workspace.outputDir s.files s'.files written := by
  generalize hs : (none : Option ServiceError) = stop at h
  induction h with
  | done => exact ⟨[], [], (List.append_nil _).symm, .nil, .refl hn⟩
  | next built _ ih =>
    rw [List.forall_mem_cons] at hw
    obtain ⟨as, made, hx, hnames, hl, hf⟩ := e.buildGroup_leaves he hn built hw.1
    obtain ⟨runs, written, hxs, hls, hfs⟩ := ih hf.normal hw.2 hs
    refine ⟨as :: runs, made ++ written, ?_, .cons hnames hl hls, hf.trans hfs⟩
    rw [hxs, hx, List.flatten_cons, List.map_append, List.append_assoc]
  | ended => cases hs

theorem takeReferences_writes {s : EngineState MemoryStore (Traced σ ρ) ρ}
    (hn : s.files.Normal) :
    Writes e.workspace.outputDir s.files (e.traced.takeReferences s).2.files [] := by
  refine .of_files hn ?_
  unfold takeReferences
  rw [traced_store, he]
  exact Reference.getOrResolve_files _ _ _ _

theorem settleLogs_writes (report : BuildReport)
    {s : EngineState MemoryStore (Traced σ ρ) ρ} (hn : s.files.Normal) :
    Writes e.workspace.outputDir s.files (e.traced.settleLogs (.ok report) s).files [] := by
  unfold settleLogs
  dsimp only
  split
  · simp only [traced_store, traced_workspace, he]
    exact FailureLog.clear_writes _ hn
  · exact .refl hn

/-- A build that ends with a report puts into the cleaned output directory what its groups leave
behind. -/
theorem buildDir_leave {root : Path} {clock : Nat → TimeStamp} {s : EngineState MemoryStore σ ρ}
    {report : BuildReport} (hn : s.files.Normal) (h : (e.buildDir root clock s).1 = .ok report)
    (hw : ∀ o ∈ report.groups, o.stopReason ≠ some .artifactWriteFailed) :
    ∃ runs written, Exchange.attempts (e.exchanges root clock s) = runs.flatten ∧
      GroupsLeave e.workspace.outputDir report.groups runs written ∧
      Writes e.workspace.outputDir (Artifact.clean fileSystem e.workspace.outputDir s.files)
        (e.buildDir root clock s).2.files written := by
  obtain ⟨s', passes, hx, hf⟩ := @buildDir_passes_traced _ _ _ e root clock s (enabled_of_report h)
  rw [h] at passes hf
  rw [hx, hf]
  cases passes with
  | @reported intake files service references t outcomes _ taken _ refs groups =>
    obtain ⟨paths, parses, -, hp, ht⟩ := Intake.ingest_taken e.service taken
    have cleaned : files = Artifact.clean fileSystem e.workspace.outputDir s.files := by
      rw [← he]
      exact Intake.ingest_files taken
    have referenced : Writes e.workspace.outputDir files t.files [] := by
      have normal : files.Normal := by
        rw [cleaned]
        exact (@Artifact.clean_find? e.workspace.outputDir _ hn).1
      have kept := e.takeReferences_writes he (s := s.traceStart.takenIn files service) normal
      rwa [refs] at kept
    obtain ⟨runs, written, hr, leave, built⟩ := groups.leave he referenced.normal hw
    refine ⟨runs, written, ?_, leave, ?_⟩
    · rw [hr, service_of_takeReferences refs]
      have parsed : (s.traceStart.takenIn files service).service.exchanges = parses := hp
      rw [parsed, Exchange.attempts_append, ht.attempts, Exchange.attempts_map_exchange,
        List.nil_append]
    · have settled := e.settleLogs_writes he ⟨intake.units.length, intake.skipped, outcomes⟩
        built.normal
      rw [← cleaned]
      simpa using (referenced.trans built).trans settled

end

end Engine

/-! ## What groups leave, read off the report -/

theorem named_append (written written' : List (Path × Bytes)) :
    named (written ++ written') = named written ++ named written' :=
  List.map_append

theorem mem_names {written : List (Path × Bytes)} {name : String} :
    name ∈ (named written).map Prod.fst ↔ ∃ a ∈ written, normalize a.1 = name := by
  simp [named]

namespace GroupOutcome.Leaves

variable {dir : Path} {o : GroupOutcome} {as : List Attempt} {made : List (Path × Bytes)}

theorem of_mem (h : o.Leaves dir as made) {a : Path × Bytes} (ha : a ∈ made) :
    o.success = true ∧ a.1 ∈ o.artifacts ∧
      ∃ ext ∈ Artifact.extensions, a.1 = Artifact.path dir o.key ext := by
  cases h with
  | artifacts last compiled success listed =>
    exact ⟨success, listed ▸ List.mem_map_of_mem ha, Artifact.mem_ofOutput ha⟩
  | nothing => cases ha

/-- A library and its debug symbols have different names. -/
theorem nodup (h : o.Leaves dir as made) (hd : EndsPlain dir.text.toList) :
    ((named made).map Prod.fst).Nodup := by
  cases h with
  | @artifacts _ output =>
    cases hs : output.debugSymbols with
    | none => simp [named, Artifact.ofOutput, hs]
    | some symbols =>
      have hne : normalize (Artifact.path dir o.key libraryExtension) ≠
          normalize (Artifact.path dir o.key Artifact.symbolsExtension) := by
        intro he
        have hx := (Artifact.path_inj hd Artifact.library_mem_extensions
          Artifact.symbols_mem_extensions he).2
        exact absurd hx (by decide)
      simpa [named, Artifact.ofOutput, hs] using hne
  | nothing => exact List.nodup_nil

end GroupOutcome.Leaves

namespace GroupsLeave

variable {dir : Path} {outcomes : List GroupOutcome} {runs : List (List Attempt)}
  {written : List (Path × Bytes)}

theorem of_mem (h : GroupsLeave dir outcomes runs written) {a : Path × Bytes} (ha : a ∈ written) :
    ∃ o ∈ outcomes, o.success = true ∧ a.1 ∈ o.artifacts ∧
      ∃ ext ∈ Artifact.extensions, a.1 = Artifact.path dir o.key ext := by
  induction h with
  | nil => cases ha
  | @cons o as made outcomes runs written _ h _ ih =>
    rcases List.mem_append.1 ha with ha | ha
    · exact ⟨o, List.mem_cons_self, h.of_mem ha⟩
    · obtain ⟨o', ho, hm⟩ := ih ha
      exact ⟨o', List.mem_cons_of_mem _ ho, hm⟩

/-- Groups under different safe names write files under different names. -/
theorem nodup (h : GroupsLeave dir outcomes runs written) (hd : EndsPlain dir.text.toList)
    (hk : (outcomes.map fun o => safeName o.key).Nodup) :
    ((named written).map Prod.fst).Nodup := by
  induction h with
  | nil => exact List.nodup_nil
  | @cons o as made outcomes runs written _ h hr ih =>
    rw [List.map_cons, List.nodup_cons] at hk
    rw [named_append, List.map_append, List.nodup_append]
    refine ⟨h.nodup hd, ih hk.2, fun name hn name' hn' he => ?_⟩
    obtain ⟨a, ha, rfl⟩ := mem_names.1 hn
    obtain ⟨b, hb, rfl⟩ := mem_names.1 hn'
    obtain ⟨_, _, ext, hx, hp⟩ := h.of_mem ha
    obtain ⟨o', ho, _, _, ext', hx', hp'⟩ := hr.of_mem hb
    rw [hp, hp'] at he
    exact hk.1 (List.mem_map.2 ⟨o', ho, (Artifact.path_inj hd hx hx' he).1.symm⟩)

theorem name_of_mem (h : GroupsLeave dir outcomes runs written) {a : Attempt}
    (ha : a ∈ runs.flatten) : a.request.assemblyName ∈ outcomes.map fun o => safeName o.key := by
  induction h with
  | nil => cases ha
  | cons names _ _ ih =>
    rw [List.flatten_cons, List.mem_append] at ha
    rw [List.map_cons, List.mem_cons]
    exact ha.imp (names a) ih

/-- Under its own safe name, a group's attempts are all those at a library of that name. -/
theorem leaves_of_mem (h : GroupsLeave dir outcomes runs written)
    (hk : (outcomes.map fun o => safeName o.key).Nodup) {o : GroupOutcome} (ho : o ∈ outcomes) :
    ∃ made, o.Leaves dir
        (runs.flatten.filter fun a => a.request.assemblyName = safeName o.key) made ∧
      ∀ a ∈ made, a ∈ written := by
  induction h with
  | nil => cases ho
  | @cons o' as made outcomes runs written names h hr ih =>
    rw [List.map_cons, List.nodup_cons] at hk
    rw [List.flatten_cons, List.filter_append]
    rcases List.mem_cons.1 ho with rfl | ho
    · have hself : as.filter (fun a => a.request.assemblyName = safeName o.key) = as :=
        List.filter_eq_self.2 fun a ha => decide_eq_true (names a ha)
      have hother : runs.flatten.filter (fun a => a.request.assemblyName = safeName o.key) = [] :=
        List.filter_eq_nil_iff.2 fun a ha he =>
          hk.1 (of_decide_eq_true he ▸ hr.name_of_mem ha)
      rw [hself, hother, List.append_nil]
      exact ⟨made, h, fun a ha => List.mem_append_left _ ha⟩
    · have hother : as.filter (fun a => a.request.assemblyName = safeName o.key) = [] := by
        refine List.filter_eq_nil_iff.2 fun a ha he => hk.1 ?_
        rw [← names a ha, of_decide_eq_true he]
        exact List.mem_map_of_mem (f := fun o : GroupOutcome => safeName o.key) ho
      rw [hother, List.nil_append]
      obtain ⟨made', hm, hs⟩ := ih hk.2 ho
      exact ⟨made', hm, fun a ha => List.mem_append_right _ (hs a ha)⟩

end GroupsLeave

/-! ## The output directory -/

/-- A group that succeeded lists the artifacts of the last output for its library, and they can be
read from the files. -/
structure GroupOutcome.Delivered (e : Engine MemoryStore σ ρ) (files : MemoryStore)
    (xs : List (Exchange ρ)) (o : GroupOutcome) (output : EmitOutput) : Prop where
  last : ∃ request,
    Exchange.lastAttempt? (safeName o.key) xs = some ⟨request, .answer output⟩
  compiled : output.success = true
  listed : o.artifacts =
    (Artifact.ofOutput e.workspace.outputDir o.key output).map Prod.fst
  read : ∀ a ∈ Artifact.ofOutput e.workspace.outputDir o.key output,
    e.store.read a.1 files = .ok a.2

/-- What lies in the output directory is what the report lists: `present` is about all paths that
the file system lists there, not recursively, for the extension of libraries or that of debug
symbols. -/
structure BuildReport.Delivered (e : Engine MemoryStore σ ρ) (files : MemoryStore)
    (xs : List (Exchange ρ)) (report : BuildReport) : Prop where
  succeeded : ∀ o ∈ report.succeeded, ∃ output, o.Delivered e files xs output
  failed : ∀ o ∈ report.failed, o.artifacts = []
  present : ∀ p : Path,
    (∃ ext ∈ Artifact.extensions, ∃ paths,
      e.store.list e.workspace.outputDir ext false files = .ok paths ∧ p ∈ paths) ↔
    ∃ o ∈ report.succeeded, ∃ q ∈ o.artifacts, p.text = normalize q

theorem Artifact.mem_list_iff {dir p : Path} {m : MemoryStore} :
    (∃ ext ∈ extensions, ∃ paths, fileSystem.list dir ext false m = .ok paths ∧ p ∈ paths) ↔
      IsPlaced dir p.text ∧ find? p.text m.files ≠ none := by
  simp only [MemoryStore.mem_list_iff, IsPlaced, extensions, List.mem_cons, List.not_mem_nil,
    or_false, or_and_right, exists_or, exists_eq_left]

theorem GroupsLeave.delivered {e : Engine MemoryStore σ ρ}
    (he : e.store = MemoryStore.fileSystem) {xs : List (Exchange ρ)} {report : BuildReport}
    {runs : List (List Attempt)} {written : List (Path × Bytes)} {m m' : MemoryStore}
    (hl : GroupsLeave e.workspace.outputDir report.groups runs written)
    (hx : Exchange.attempts xs = runs.flatten)
    (hk : (report.groups.map fun o => safeName o.key).Nodup)
    (hm : ∀ name, Artifact.IsPlaced e.workspace.outputDir name → find? name m.files = none)
    (hf : Writes e.workspace.outputDir m m' written) : report.Delivered e m' xs := by
  have hd := e.workspace.endsPlain_outputDir
  have hnodup := hl.nodup hd hk
  have hfind : ∀ name, Artifact.IsPlaced e.workspace.outputDir name →
      find? name m'.files = find? name (named written).reverse := fun name hn => by
    rw [hf.find name hn, hm name hn, Option.or_none]
  have hplaced : ∀ a ∈ written, Artifact.IsPlaced e.workspace.outputDir (normalize a.1) := by
    intro a ha
    obtain ⟨_, _, _, _, ext, hx, hp⟩ := hl.of_mem ha
    rw [hp]
    exact Artifact.isPlaced_path hd _ hx
  have hread : ∀ a ∈ written, find? (normalize a.1) m'.files = some a.2 := by
    intro a ha
    rw [hfind _ (hplaced a ha)]
    refine find?_of_nodup ?_ (List.mem_reverse.2 (List.mem_map_of_mem ha))
    rw [List.map_reverse]
    exact List.nodup_reverse.2 hnodup
  have hleaves := fun o => @GroupsLeave.leaves_of_mem _ _ _ _ hl hk o
  rw [← hx] at hleaves
  constructor
  case succeeded =>
    intro o ho
    obtain ⟨ho, hs⟩ := List.mem_filter.1 ho
    obtain ⟨made, hmade, hw⟩ := hleaves o ho
    cases hmade with
    | @artifacts request output last compiled _ listed =>
      refine ⟨output, ⟨request, last⟩, compiled, listed, fun a ha => ?_⟩
      rw [he]
      exact read_of_find? (hread a (hw a ha))
    | nothing success =>
      rw [success] at hs
      cases hs
  case failed =>
    intro o ho
    obtain ⟨ho, hs⟩ := List.mem_filter.1 ho
    obtain ⟨made, hmade, _⟩ := hleaves o ho
    cases hmade with
    | artifacts _ _ success =>
      rw [success] at hs
      cases hs
    | nothing _ listed => exact listed
  case present =>
    intro p
    rw [he, Artifact.mem_list_iff]
    constructor
    · rintro ⟨hp, hne⟩
      obtain ⟨content, hc⟩ := Option.ne_none_iff_exists'.1 hne
      rw [hfind _ hp] at hc
      obtain ⟨a, ha, hn⟩ := List.mem_map.1 (List.mem_reverse.1 (mem_of_find? hc))
      obtain ⟨o, ho, hs, hq, _⟩ := hl.of_mem ha
      exact ⟨o, List.mem_filter.2 ⟨ho, hs⟩, a.1, hq, (congrArg Prod.fst hn).symm⟩
    · rintro ⟨o, ho, q, hq, hp⟩
      obtain ⟨ho, hs⟩ := List.mem_filter.1 ho
      obtain ⟨made, hmade, hw⟩ := hleaves o ho
      cases hmade with
      | artifacts _ _ _ listed =>
        rw [listed] at hq
        obtain ⟨a, ha, rfl⟩ := List.mem_map.1 hq
        rw [hp, hread a (hw a ha)]
        exact ⟨hplaced a (hw a ha), nofun⟩
      | nothing _ listed =>
        rw [listed] at hq
        cases hq

namespace Engine

/-- A build over a file system in memory that ends with a report leaves in the output directory what
the report lists and nothing else, if no artifact failed to be written and no two groups have one
safe name. -/
theorem buildDir_delivered (e : Engine MemoryStore σ ρ) (he : e.store = MemoryStore.fileSystem)
    (root : Path) (clock : Nat → TimeStamp) (s : EngineState MemoryStore σ ρ)
    (hs : s.files.Reachable) {report : BuildReport}
    (h : (e.buildDir root clock s).1 = .ok report)
    (hw : ∀ o ∈ report.groups, o.stopReason ≠ some .artifactWriteFailed)
    (hk : (report.groups.map fun o => safeName o.key).Nodup) :
    report.Delivered e (e.buildDir root clock s).2.files (e.exchanges root clock s) := by
  have hn := hs.normal
  obtain ⟨runs, written, hx, hl, hf⟩ := e.buildDir_leave he hn h hw
  exact hl.delivered he hx hk (Artifact.clean_find? hn).2 hf

/-- A workspace with two plugins and, from an earlier build, a library and debug symbols. -/
def staleOutput : MemoryStore :=
  .withFiles [
    (⟨"w/assemblies/a.dll"⟩, standInLibrary),
    (⟨"w/compiled output/Old.DLL"⟩, [0]),
    (⟨"w/compiled output/It.pdb"⟩, [0]),
    (⟨"w/source/a.cs"⟩, Encoding.toUtf8 "namespace My.A { }"),
    (⟨"w/source/b.cs"⟩, Encoding.toUtf8 "namespace It { }")]

/-- The first library is made with debug symbols, and the second is not made. -/
def oneOfTwo : List Scripted.EmitAnswer :=
  [.fixed (.answer { EmitOutput.standIn with debugSymbols := some [1] }),
    .fixed (.answer (.failed [Diagnostic.plainError "broken"]))]

theorem buildDir_delivered_stale_output :
    ∃ report,
      (inMemory.buildDir ⟨"w/source"⟩ (fun _ => newYear) (.start staleOutput oneOfTwo)).1 =
        .ok report ∧
      report.groups.map (fun o => (o.key, o.artifacts)) =
        [("My", [⟨"w/compiled output/My.dll"⟩, ⟨"w/compiled output/My.pdb"⟩]), ("It", [])] ∧
      report.Delivered inMemory
        (inMemory.buildDir ⟨"w/source"⟩ (fun _ => newYear) (.start staleOutput oneOfTwo)).2.files
        (inMemory.exchanges ⟨"w/source"⟩ (fun _ => newYear) (.start staleOutput oneOfTwo)) := by
  have hr : (inMemory.buildDir ⟨"w/source"⟩ (fun _ => newYear)
      (.start staleOutput oneOfTwo)).1.toOption.map
        (·.groups.map fun o => (o.key, o.artifacts, o.stopReason)) =
      some [("My", [⟨"w/compiled output/My.dll"⟩, ⟨"w/compiled output/My.pdb"⟩], none),
        ("It", [], some .notRetryable)] := by
    decide +kernel
  cases h : (inMemory.buildDir ⟨"w/source"⟩ (fun _ => newYear) (.start staleOutput oneOfTwo)).1 with
  | error err =>
    rw [h] at hr
    cases hr
  | ok report =>
    rw [h] at hr
    have hg := Option.some.inj hr
    have hmap {α : Type} (f : String × List Path × Option StopReason → α) :=
      congrArg (List.map f) hg
    simp only [List.map_map] at hmap
    refine ⟨report, rfl, hmap fun x => (x.1, x.2.1), inMemory.buildDir_delivered rfl _ _ _
      (reachable_withFiles _) h ?_ ?_⟩
    · intro o ho hw
      have hm : o.stopReason ∈ report.groups.map GroupOutcome.stopReason := List.mem_map_of_mem ho
      rw [show report.groups.map GroupOutcome.stopReason = _ from hmap fun x => x.2.2, hw] at hm
      exact absurd hm (by decide)
    · rw [show report.groups.map (fun o => safeName o.key) = _ from hmap fun x => safeName x.1]
      decide

end Engine
end PluginForge
