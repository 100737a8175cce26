/-
What a build leaves under the artifact names of a group that failed, over any file system and
whichever of its calls fail. The library of a group is written before its debug symbols, and it is not
taken back if these cannot be written. So a group that failed may leave a library that the report does
not list; apart from that there is nothing but what another group of the same safe name has written.

The calls of a build are followed group by group (`GroupOutcome.Made`).
-/
import PluginForge.Proofs.Accounting
import PluginForge.Proofs.OutputDir
import PluginForge.Proofs.StoreChanges
import PluginForge.Store.Faults

namespace PluginForge

open MemoryStore

variable {φ σ ρ : Type}

/-! ## One group -/

namespace GroupOutcome

/-- What is done on the file system for a group, given its outcome. -/
inductive Made (dir logs : Path) (o : GroupOutcome) : List StoreChange → Prop
  | artifacts {output} (success : o.success = true)
      (listed : o.artifacts = (Artifact.ofOutput dir o.key output).map Prod.fst) :
      Made dir logs o
        (.makeDir dir (.ok ()) :: (Artifact.ofOutput dir o.key output).map StoreChange.written)
  /-- The output directory cannot be made. -/
  | noDir {err} (failed : o.success = false) (listed : o.artifacts = [])
      (stop : o.stopReason = some .artifactWriteFailed) :
      Made dir logs o [.makeDir dir (.error err)]
  /-- One of the artifacts, `a`, cannot be written, and those before it stay. -/
  | cut {output xs a ys err} (failed : o.success = false) (listed : o.artifacts = [])
      (stop : o.stopReason = some .artifactWriteFailed)
      (split : Artifact.ofOutput dir o.key output = xs ++ a :: ys) :
      Made dir logs o (.makeDir dir (.ok ()) ::
        (xs.map StoreChange.written ++ [.write a.1 a.2 (.error err)]))
  /-- There are no artifacts to be written. -/
  | log {t changes} (failed : o.success = false) (listed : o.artifacts = [])
      (only : ∀ c ∈ changes, c.OnlyWrites (logs.join (logFileName o.key t))) :
      Made dir logs o changes

variable {dir logs : Path} {o : GroupOutcome} {made : List StoreChange}

theorem Made.listed_of_failed (h : o.Made dir logs made) (failed : o.success = false) :
    o.artifacts = [] := by
  cases h with
  | artifacts success =>
    rw [success] at failed
    cases failed
  | noDir _ listed | cut _ listed | log _ listed => exact listed

/-- Nothing is removed for a group. -/
theorem Made.isRemove (h : o.Made dir logs made) : ∀ c ∈ made, c.isRemove = false := by
  cases h with
  | artifacts =>
    refine List.forall_mem_cons.2 ⟨rfl, fun c hc => ?_⟩
    obtain ⟨a, -, rfl⟩ := List.mem_map.1 hc
    rfl
  | noDir => exact List.forall_mem_singleton.2 rfl
  | cut =>
    refine List.forall_mem_cons.2 ⟨rfl, List.forall_mem_append.2
      ⟨fun c hc => ?_, List.forall_mem_singleton.2 rfl⟩⟩
    obtain ⟨a, -, rfl⟩ := List.mem_map.1 hc
    rfl
  | log _ _ only => exact fun c hc => (only c hc).1

end GroupOutcome

/-! ## Builds -/

namespace Engine

variable {e : Engine φ σ ρ}

theorem writeArtifacts_made {output : EmitOutput} {o : GroupOutcome} {s : EngineState φ σ ρ}
    (failed : o.success = false) (listed : o.artifacts = []) :
    ∃ made, (e.writeArtifacts output o s).1.Made e.workspace.outputDir e.workspace.logsDir made ∧
      e.store.Did s.files made (e.writeArtifacts output o s).2.files := by
  unfold writeArtifacts
  cases hw : Artifact.write e.store e.workspace.outputDir o.key output s.files with | mk r files =>
  have did := Artifact.write_did hw
  cases r with
  | ok artifacts =>
    obtain ⟨rfl, did⟩ := did
    exact ⟨_, .artifacts rfl rfl, did⟩
  | error err =>
    rcases did with did | ⟨xs, a, ys, split, did⟩
    · exact ⟨_, .noDir failed listed rfl, did⟩
    · exact ⟨_, .cut failed listed rfl split, did⟩

theorem writeLog_made {name : String} {t : TimeStamp} {o : GroupOutcome} {s : EngineState φ σ ρ}
    (failed : o.success = false) (listed : o.artifacts = []) :
    ∃ made, (e.writeLog name t o s).1.Made e.workspace.outputDir e.workspace.logsDir made ∧
      e.store.Did s.files made (e.writeLog name t o s).2.files := by
  obtain ⟨made, did, only⟩ := @FailureLog.write_did φ e.store e.logStyle e.workspace.logsDir o.key
    name o.diagnostics t s.files
  unfold writeLog
  generalize FailureLog.write e.store e.logStyle e.workspace.logsDir o.key name o.diagnostics t
    s.files = r at did ⊢
  obtain ⟨r, files⟩ := r
  cases r with
  | ok p => exact ⟨made, .log failed listed only, did⟩
  | error err => exact ⟨made, .log failed listed only, did⟩

theorem buildGroup_made {references : List Path} {t : TimeStamp} {g : CompilationGroup}
    {s : EngineState φ σ ρ} {o : GroupOutcome} (h : (e.buildGroup references t g s).1 = .ok o) :
    ∃ made, o.Made e.workspace.outputDir e.workspace.logsDir made ∧
      e.store.Did s.files made (e.buildGroup references t g s).2.files := by
  have same : (e.compileGroup references g s).2.files = s.files := rfl
  unfold buildGroup at h ⊢
  generalize e.compileGroup references g s = r at h same ⊢
  obtain ⟨r, s'⟩ := r
  rw [← same]
  cases r with
  | error err =>
    dsimp only at h ⊢
    split at h
    · cases h
    · rename_i hm
      rw [if_neg hm]
      cases h
      exact ⟨[], .log (t := t) rfl rfl fun _ hc => absurd hc List.not_mem_nil, .nil⟩
  | ok c =>
    dsimp only at h ⊢
    split at h
    · rename_i hc
      rw [if_pos hc]
      cases h
      exact writeArtifacts_made rfl rfl
    · rename_i hc
      rw [if_neg hc]
      cases h
      exact writeLog_made rfl rfl

theorem Builds.made {references : List Path} {clock : Nat → TimeStamp} {index : Nat}
    {groups : List CompilationGroup} {s s' : EngineState φ σ ρ} {outcomes : List GroupOutcome}
    {stop : Option ServiceError} (h : e.Builds references clock index groups s outcomes stop s') :
    ∃ made, List.Forall₂ (GroupOutcome.Made e.workspace.outputDir e.workspace.logsDir) outcomes
        made ∧
      e.store.Did s.files made.flatten s'.files := by
  induction h with
  | done => exact ⟨[], .nil, .nil⟩
  | next built _ ih =>
    obtain ⟨made, hm, did⟩ := buildGroup_made (congrArg Prod.fst built)
    rw [built] at did
    obtain ⟨more, hs, did'⟩ := ih
    exact ⟨made :: more, .cons hm hs, did.append did'⟩
  | ended refused =>
    rw [files_of_refused refused]
    exact ⟨[], .nil, .nil⟩

/-- What a build does on the file system: something for each of its groups, one after the other, and
calls that write no file before and after. Nothing comes after them if a group failed. -/
structure BuildMade (e : Engine φ σ ρ) (outcomes : List GroupOutcome) (files files' : φ)
    (before : List StoreChange) (made : List (List StoreChange)) (after : List StoreChange) :
    Prop where
  did : e.store.Did files (before ++ (made.flatten ++ after)) files'
  opening : ∀ c ∈ before, c.isWrite = false
  groups : List.Forall₂ (GroupOutcome.Made e.workspace.outputDir e.workspace.logsDir) outcomes made
  closing : ∀ c ∈ after, c.isWrite = false
  failed : (∃ o ∈ outcomes, o.success = false) → after = []

/-- Taking in sources, in a cleared output folder, writes no file. -/
theorem intakeFrom_tidies {root : Path} {s : EngineState φ σ ρ} {files : φ} {service : σ}
    {r : Except IntakeError IntakeReport} (h : e.intakeFrom root s = (r, files, service)) :
    e.store.Tidies s.files files := by
  have taken := @Intake.ingest_makesDirs φ e.store σ ρ e.service e.settings root
    (Artifact.clean e.store e.workspace.outputDir s.files) s.service
  have same : (e.intakeFrom root s).2.1 = files := congrArg (fun p => p.2.1) h
  exact (Artifact.clean_tidies e.workspace.outputDir s.files).trans (same ▸ .of_makesDirs taken)

theorem takeReferences_tidies {s s' : EngineState φ σ ρ} {r : Except ReferenceError (List Path)}
    (h : e.takeReferences s = (r, s')) : e.store.Tidies s.files s'.files := by
  have made := @Reference.getOrResolve_makesDirs φ e.store e.settings e.roots s.references s.files
  have same : (e.takeReferences s).2.files = s'.files := congrArg (fun p => p.2.files) h
  exact same ▸ .of_makesDirs made

theorem Passes.made {root : Path} {clock : Nat → TimeStamp} {s s' : EngineState φ σ ρ}
    {report : BuildReport} (h : e.Passes root clock s (.ok report) s') :
    ∃ before made, e.BuildMade report.groups s.files s'.files before made [] := by
  cases h with
  | reported taken _ refs groups =>
    obtain ⟨before, did, tidy⟩ := (intakeFrom_tidies taken).trans (takeReferences_tidies refs)
    obtain ⟨made, hm, did'⟩ := groups.made
    refine ⟨before, made, ?_, tidy, hm, fun _ hc => absurd hc List.not_mem_nil, fun _ => rfl⟩
    rw [List.append_nil]
    exact did.append did'

/-- A build that ends with a report does nothing else on the file system. -/
theorem buildDir_made {root : Path} {clock : Nat → TimeStamp} {s : EngineState φ σ ρ}
    {report} (h : (e.buildDir root clock s).1 = .ok report) :
    ∃ before made after, e.BuildMade report.groups s.files (e.buildDir root clock s).2.files before
      made after := by
  obtain ⟨s', passes, last⟩ := @buildDir_passes _ _ _ e root clock s (enabled_of_report h)
  rw [h] at passes last
  obtain ⟨before, made, cycle⟩ := passes.made
  have files : (e.buildDir root clock s).2.files = (e.settleLogs (.ok report) s').files := by
    rw [last]
    rfl
  rw [files]
  unfold settleLogs
  dsimp only
  split
  · rename_i hall
    obtain ⟨after, did, tidy⟩ := @FailureLog.clear_tidies φ e.store e.workspace.logsDir s'.files
    refine ⟨before, made, after, ?_, cycle.opening, cycle.groups, tidy, ?_⟩
    · have whole := cycle.did.append did
      rw [List.append_nil, List.append_assoc] at whole
      exact whole
    · rintro ⟨o, ho, hf⟩
      rw [Bool.and_eq_true, BuildReport.allSucceeded, List.all_eq_true] at hall
      rw [hall.1 o ho] at hf
      cases hf
  · exact ⟨before, made, [], cycle⟩

end Engine

/-! ## What is left of a group that failed -/

/-- Where what was written under an artifact name of the group `key` comes from: a group of the same
safe name succeeded and lists it, or it is the library of such a group, whose debug symbols could not
be written. -/
inductive Leftover (dir : Path) (outcomes : List GroupOutcome) (changes : List StoreChange)
    (key ext : String) (content : Bytes) : Prop
  | delivered {o} (mem : o ∈ outcomes) (name : safeName o.key = safeName key)
      (success : o.success = true) (listed : Artifact.path dir key ext ∈ o.artifacts)
  | half {o symbols err} (mem : o ∈ outcomes) (name : safeName o.key = safeName key)
      (failed : o.success = false) (stop : o.stopReason = some .artifactWriteFailed)
      (listed : o.artifacts = []) (library : ext = libraryExtension)
      (cut : [.write (Artifact.path dir key libraryExtension) content (.ok ()),
        .write (Artifact.path dir key Artifact.symbolsExtension) symbols (.error err)] <:+: changes)

/-- If an artifact of a group cannot be written and another one came before it, the one is the debug
symbols and the other the library. -/
theorem Artifact.ofOutput_split {dir : Path} {key : String} {output : EmitOutput}
    {xs ys : List (Path × Bytes)} {a x : Path × Bytes}
    (h : ofOutput dir key output = xs ++ a :: ys) (hx : x ∈ xs) :
    xs = [x] ∧ x.1 = path dir key libraryExtension ∧ a.1 = path dir key symbolsExtension := by
  rw [ofOutput] at h
  cases xs with
  | nil => cases hx
  | cons x' xs =>
    obtain ⟨first, rest⟩ := List.cons.inj h
    cases hs : output.debugSymbols with
    | none =>
      rw [hs] at rest
      exact absurd rest.symm (List.append_ne_nil_of_right_ne_nil xs (List.cons_ne_nil a ys))
    | some symbols =>
      rw [hs] at rest
      rcases List.append_eq_singleton_iff.1 rest.symm with ⟨rfl, hy⟩ | ⟨-, hy⟩
      · obtain rfl := List.mem_singleton.1 hx
        obtain ⟨ha, -⟩ := List.cons.inj hy
        exact ⟨rfl, by rw [← first], by rw [ha]⟩
      · exact absurd hy (List.cons_ne_nil a ys)

theorem GroupOutcome.Made.leftover {dir logs : Path} {o : GroupOutcome} {made : List StoreChange}
    {outcomes : List GroupOutcome} {changes : List StoreChange} {key ext : String} {content : Bytes}
    (h : o.Made dir logs made) (hd : EndsPlain dir.text.toList) (hl : EndsPlain logs.text.toList)
    (mem : o ∈ outcomes) (within : made <:+: changes) (hext : ext ∈ Artifact.extensions)
    (wrote : .write (Artifact.path dir key ext) content (.ok ()) ∈ made) :
    Leftover dir outcomes changes key ext content := by
  cases h with
  | @artifacts output success listed =>
    rcases List.mem_cons.1 wrote with he | wrote
    · cases he
    · obtain ⟨a, ha, he⟩ := List.mem_map.1 wrote
      obtain ⟨hp, -⟩ := StoreChange.write.inj he
      obtain ⟨ext', hext', hp'⟩ := Artifact.mem_ofOutput ha
      obtain ⟨name, rfl⟩ := Artifact.path_inj hd hext' hext (congrArg normalize (hp'.symm.trans hp))
      refine .delivered mem name success ?_
      rw [listed, ← hp]
      exact List.mem_map_of_mem ha
  | noDir => cases List.mem_singleton.1 wrote
  | @cut output xs a ys err failed listed stop split =>
    rcases List.mem_cons.1 wrote with he | wrote
    · cases he
    rcases List.mem_append.1 wrote with wrote | he
    · obtain ⟨x, hx, he⟩ := List.mem_map.1 wrote
      obtain ⟨hp, hc, -⟩ := StoreChange.write.inj he
      obtain ⟨rfl, hx, ha⟩ := Artifact.ofOutput_split split hx
      obtain ⟨name, rfl⟩ := Artifact.path_inj hd Artifact.library_mem_extensions hext
        (congrArg normalize (hx.symm.trans hp))
      have same (ext : String) : Artifact.path dir o.key ext = Artifact.path dir key ext := by
        rw [Artifact.path, name, Artifact.path]
      have cut : [StoreChange.written x, .write a.1 a.2 (.error err)] <:+: changes :=
        (List.suffix_cons _ _).isInfix.trans within
      rw [StoreChange.written, hp, hc, ha, same] at cut
      exact .half mem name failed stop listed rfl cut
    · obtain ⟨-, -, hr⟩ := StoreChange.write.inj (List.mem_singleton.1 he)
      cases hr
  | log failed listed only =>
    have hp := (only _ wrote).2 _ _ _ rfl
    have placed := Artifact.isPlaced_path hd key hext
    rw [hp] at placed
    exact absurd placed (Artifact.not_isPlaced_log hl o.key _)

theorem exists_of_forall₂ {α β : Type} {R : α → β → Prop} {xs : List α} {ys : List β}
    (h : List.Forall₂ R xs ys) : (∀ x ∈ xs, ∃ y ∈ ys, R x y) ∧ ∀ y ∈ ys, ∃ x ∈ xs, R x y := by
  induction h with
  | nil => exact ⟨fun _ h => absurd h List.not_mem_nil, fun _ h => absurd h List.not_mem_nil⟩
  | @cons x y xs ys hxy _ ih =>
    constructor
    · refine List.forall_mem_cons.2 ⟨⟨y, List.mem_cons_self, hxy⟩, fun x hx => ?_⟩
      obtain ⟨y', hy, hr⟩ := ih.1 x hx
      exact ⟨y', List.mem_cons_of_mem _ hy, hr⟩
    · refine List.forall_mem_cons.2 ⟨⟨x, List.mem_cons_self, hxy⟩, fun y hy => ?_⟩
      obtain ⟨x', hx, hr⟩ := ih.2 y hy
      exact ⟨x', List.mem_cons_of_mem _ hx, hr⟩

/-- After a file has been written, nothing more is removed, if nothing is written before `later` begins
and nothing is removed in it. -/
theorem StoreChange.keeps {earlier later xs ys : List StoreChange} {c : StoreChange}
    (writes : ∀ c ∈ earlier, c.isWrite = false) (removes : ∀ c ∈ later, c.isRemove = false)
    (h : earlier ++ later = xs ++ c :: ys) (hc : c.isWrite = true) :
    ∀ d ∈ ys, d.isRemove = false := by
  rcases List.append_eq_append_iff.1 h with ⟨zs, -, hl⟩ | ⟨zs, he, hl⟩
  · rw [hl] at removes
    exact fun d hd => removes d (List.mem_append_right _ (List.mem_cons_of_mem _ hd))
  · cases zs with
    | nil =>
      rw [List.nil_append] at hl
      rw [← hl] at removes
      exact fun d hd => removes d (List.mem_cons_of_mem _ hd)
    | cons z zs =>
      obtain ⟨rfl, -⟩ := List.cons.inj hl
      rw [writes c (he ▸ List.mem_append_right _ List.mem_cons_self)] at hc
      cases hc

namespace Engine

variable {e : Engine φ σ ρ}

namespace BuildMade

variable {outcomes : List GroupOutcome} {files files' : φ} {before after : List StoreChange}
  {made : List (List StoreChange)} {o : GroupOutcome}

/-- A file that is written is written for a group. -/
theorem mem_made (h : e.BuildMade outcomes files files' before made after) {c : StoreChange}
    (hc : c ∈ before ++ (made.flatten ++ after)) (hw : c.isWrite = true) :
    ∃ m ∈ made, c ∈ m := by
  rcases List.mem_append.1 hc with hc | hc
  · rw [h.opening c hc] at hw
    cases hw
  rcases List.mem_append.1 hc with hc | hc
  · exact List.mem_flatten.1 hc
  · rw [h.closing c hc] at hw
    cases hw

theorem infix_of_mem {m : List StoreChange} (hm : m ∈ made) :
    m <:+: before ++ (made.flatten ++ after) :=
  (List.infix_of_mem_flatten hm).trans (List.infix_append' before made.flatten after)

theorem exists_made (h : e.BuildMade outcomes files files' before made after) (ho : o ∈ outcomes) :
    ∃ m, o.Made e.workspace.outputDir e.workspace.logsDir m ∧
      m <:+: before ++ (made.flatten ++ after) := by
  obtain ⟨m, hm, own⟩ := (exists_of_forall₂ h.groups).1 o ho
  exact ⟨m, own, infix_of_mem hm⟩

theorem leftover (h : e.BuildMade outcomes files files' before made after) {key ext : String}
    {content : Bytes} (hext : ext ∈ Artifact.extensions)
    (wrote : .write (Artifact.path e.workspace.outputDir key ext) content (.ok ()) ∈
      before ++ (made.flatten ++ after)) :
    Leftover e.workspace.outputDir outcomes (before ++ (made.flatten ++ after)) key ext content := by
  obtain ⟨m, hm, wrote⟩ := h.mem_made wrote rfl
  obtain ⟨o, ho, own⟩ := (exists_of_forall₂ h.groups).2 m hm
  exact own.leftover e.workspace.endsPlain_outputDir e.workspace.endsPlain_logsDir ho
    (infix_of_mem hm) hext wrote

/-- When a group has failed, no file that was written is removed again. -/
theorem isRemove (h : e.BuildMade outcomes files files' before made after) (ho : o ∈ outcomes)
    (failed : o.success = false) {xs ys : List StoreChange} {c : StoreChange}
    (hc : before ++ (made.flatten ++ after) = xs ++ c :: ys) (hw : c.isWrite = true) :
    ∀ d ∈ ys, d.isRemove = false := by
  obtain rfl : after = [] := h.failed ⟨o, ho, failed⟩
  refine StoreChange.keeps h.opening (fun c hc => ?_) hc hw
  rw [List.append_nil] at hc
  obtain ⟨m, hm, hc⟩ := List.mem_flatten.1 hc
  obtain ⟨o, -, own⟩ := (exists_of_forall₂ h.groups).2 m hm
  exact own.isRemove c hc

end BuildMade

/-- What a build that ends with a report did on the file system: for each group in turn what its
outcome tells (`GroupOutcome.Made`). Of a group that failed the report lists no artifacts, and where a
file was written under one of its artifact names, it is never removed again and is the artifact of a
group of the same safe name that succeeded, or the library of one whose debug symbols could not be
written. On a file system with a record there is no choice in the changes (`FileSystem.Did.recorded`).
-/
theorem buildDir_leftovers {root : Path} {clock : Nat → TimeStamp} {s : EngineState φ σ ρ}
    {report} (h : (e.buildDir root clock s).1 = .ok report) :
    ∃ changes, e.store.Did s.files changes (e.buildDir root clock s).2.files ∧
      (∀ o ∈ report.groups, ∃ made,
        o.Made e.workspace.outputDir e.workspace.logsDir made ∧ made <:+: changes) ∧
      ∀ o ∈ report.groups, o.success = false → o.artifacts = [] ∧
        ∀ ext ∈ Artifact.extensions, ∀ content xs ys,
          changes = xs ++ .write (Artifact.path e.workspace.outputDir o.key ext) content (.ok ()) ::
            ys →
          Leftover e.workspace.outputDir report.groups changes o.key ext content ∧
            ∀ c ∈ ys, c.isRemove = false := by
  obtain ⟨before, made, after, build⟩ := buildDir_made h
  refine ⟨_, build.did, fun _ ho => build.exists_made ho, fun o ho failed => ⟨?listed,
    fun ext hext content xs ys hc => ⟨?left, ?kept⟩⟩⟩
  case listed =>
    obtain ⟨m, own, -⟩ := build.exists_made ho
    exact own.listed_of_failed failed
  case left => exact build.leftover hext (hc ▸ List.mem_append_right xs List.mem_cons_self)
  case kept => exact build.isRemove ho failed hc rfl

/-- A source directory with one plugin. -/
def onePlugin : MemoryStore where
  files := [
    ("w/assemblies/a.dll", standInLibrary),
    ("w/source/a.cs", Encoding.toUtf8 "namespace My { }")]
  dirs := []

/-- The debug symbols of that plugin cannot be written. -/
def noSymbols : FileSystem MemoryStore :=
  MemoryStore.fileSystem.withFaults [⟨.write, ⟨"w/compiled output/My.pdb"⟩, none⟩]

/-- The engine on another file system. -/
def onStore (e : Engine MemoryStore σ ρ) (fs : FileSystem φ) : Engine φ σ ρ where
  settings := e.settings
  workspace := e.workspace
  roots := e.roots
  store := fs
  service := e.service
  extraAssemblies := e.extraAssemblies

/-- A report, with its first group, from what is known of its groups. -/
theorem exists_report {ε α : Type} {r : Except ε BuildReport} {f : GroupOutcome → α} {a : α}
    {as : List α} (h : r.toOption.map (·.groups.map f) = some (a :: as)) :
    ∃ report, r = .ok report ∧ report.groups.map f = a :: as ∧ ∃ o ∈ report.groups, f o = a := by
  cases r with
  | error err => cases h
  | ok report =>
    have groups : report.groups.map f = a :: as := Option.some.inj h
    obtain ⟨o, rest, hg, ho, -⟩ := List.map_eq_cons_iff.1 groups
    exact ⟨report, rfl, groups, o, hg ▸ List.mem_cons_self, ho⟩

theorem buildDir_leftovers_no_symbols :
    ∃ report,
      ((inMemory.onStore noSymbols.recorded).buildDir ⟨"w/source"⟩ (fun _ => newYear)
        (.start ⟨onePlugin, []⟩ [])).1 = .ok report ∧
      report.groups.map (fun o => (o.key, o.success, o.artifacts, o.stopReason)) =
        [("My", false, [], some .artifactWriteFailed)] ∧
      Leftover ⟨"w/compiled output"⟩ report.groups
        ((inMemory.onStore noSymbols.recorded).buildDir ⟨"w/source"⟩ (fun _ => newYear)
          (.start ⟨onePlugin, []⟩ [])).2.files.changes "My" libraryExtension
        standInLibrary := by
  obtain ⟨report, h, groups, o, ho, fields⟩ := @exists_report _ _
    ((inMemory.onStore noSymbols.recorded).buildDir ⟨"w/source"⟩ (fun _ => newYear)
      (.start ⟨onePlugin, []⟩ [])).1
    (fun o => (o.key, o.success, o.artifacts, o.stopReason))
    ("My", false, [], some .artifactWriteFailed) []
    (by decide +kernel)
  have wrote : .write (Artifact.path ⟨"w/compiled output"⟩ "My" libraryExtension) standInLibrary
      (.ok ()) ∈ ((inMemory.onStore noSymbols.recorded).buildDir ⟨"w/source"⟩ (fun _ => newYear)
        (.start ⟨onePlugin, []⟩ [])).2.files.changes := by
    decide +kernel
  obtain ⟨key, rest⟩ := Prod.mk.inj fields
  obtain ⟨failed, -⟩ := Prod.mk.inj rest
  obtain ⟨changes, did, -, left⟩ := buildDir_leftovers h
  have record : _ = [] ++ changes := did.recorded
  rw [record] at wrote ⊢
  obtain ⟨xs, ys, split⟩ := List.append_of_mem wrote
  refine ⟨report, h, groups, ?_⟩
  rw [← key] at split ⊢
  exact ((left o ho failed).2 libraryExtension Artifact.library_mem_extensions standInLibrary xs ys
    split).1

/-- The report of a build tells what it left in the output directory: under the artifact names of a
group that failed there is no file that was not there before. -/
def LeavesNothing : Prop :=
  ∀ (σ ρ : Type) (faults : List Fault) (e : Engine MemoryStore σ ρ),
    e.store = MemoryStore.fileSystem.withFaults faults →
    ∀ (root : Path) (clock : Nat → TimeStamp) (s : EngineState MemoryStore σ ρ) (report : BuildReport),
      (e.buildDir root clock s).1 = .ok report →
      ∀ o ∈ report.groups, o.success = false → ∀ ext ∈ Artifact.extensions,
        e.store.isFile (Artifact.path e.workspace.outputDir o.key ext) s.files = false →
        e.store.isFile (Artifact.path e.workspace.outputDir o.key ext)
          (e.buildDir root clock s).2.files = false

/-- The library of `onePlugin` stays when its debug symbols cannot be written. -/
theorem not_leavesNothing : ¬ LeavesNothing := by
  intro leaves
  obtain ⟨report, h, -, o, ho, fields⟩ := @exists_report _ _
    ((inMemory.onStore noSymbols).buildDir ⟨"w/source"⟩ (fun _ => newYear)
      (.start onePlugin [])).1
    (fun o => (o.key, o.success)) ("My", false) [] (by decide +kernel)
  have stays : noSymbols.isFile (Artifact.path ⟨"w/compiled output"⟩ "My" libraryExtension)
      ((inMemory.onStore noSymbols).buildDir ⟨"w/source"⟩ (fun _ => newYear)
        (.start onePlugin [])).2.files = true := by
    decide +kernel
  obtain ⟨key, failed⟩ := Prod.mk.inj fields
  have gone := leaves _ _ _ _ rfl _ _ _ _ h o ho failed libraryExtension
    Artifact.library_mem_extensions
  rw [key] at gone
  exact absurd ((gone (by decide +kernel)).symm.trans stays) Bool.false_ne_true

end Engine
end PluginForge
