/-
A build that ends with a report accounts for every source: each listed file is skipped or belongs to
one group, files and groups come in the order of the listing, and a group's key is the root
namespace of what the compiler read in the very texts that the group's library is first asked for.
-/
import PluginForge.Compiler.Scripted
import PluginForge.Proofs.Grouping
import PluginForge.Proofs.Intake
import PluginForge.Proofs.Stages
import PluginForge.Store.Memory

namespace PluginForge

variable {φ σ τ ρ : Type}

/-! ## Groups -/

/-- A group's outcome names the group and its files, and its attempts are a run for the group. -/
structure GroupOutcome.BuiltBy (settings : Settings) (references : List Path)
    (g : CompilationGroup) (o : GroupOutcome) (as : List Attempt) : Prop where
  key : o.key = g.key
  files : o.files = g.units.map ParsedUnit.path
  run : ∃ r, GroupCompile.Run settings.retryCount.toNat 0 0
    (g.request settings.languageVersion references) as r

/-- The outcomes of groups, one for each in order, with their attempts. -/
inductive GroupsBuilt (settings : Settings) (references : List Path) :
    List CompilationGroup → List GroupOutcome → List (List Attempt) → Prop
  | nil : GroupsBuilt settings references [] [] []
  | cons {g o as groups outcomes runs} (h : GroupOutcome.BuiltBy settings references g o as)
      (hr : GroupsBuilt settings references groups outcomes runs) :
      GroupsBuilt settings references (g :: groups) (o :: outcomes) (as :: runs)

namespace GroupsBuilt

variable {settings : Settings} {references : List Path} {groups : List CompilationGroup}
  {outcomes : List GroupOutcome} {runs : List (List Attempt)}

theorem keys (h : GroupsBuilt settings references groups outcomes runs) :
    outcomes.map GroupOutcome.key = groups.map CompilationGroup.key := by
  induction h with
  | nil => rfl
  | cons h _ ih => rw [List.map_cons, List.map_cons, h.key, ih]

theorem files (h : GroupsBuilt settings references groups outcomes runs) :
    outcomes.map GroupOutcome.files = groups.map (·.units.map ParsedUnit.path) := by
  induction h with
  | nil => rfl
  | cons h _ ih => rw [List.map_cons, List.map_cons, h.files, ih]

/-- What holds of each group with what was built from it holds of all outcomes with their attempts.
-/
theorem forall₂ {P : GroupOutcome → List Attempt → Prop}
    (h : GroupsBuilt settings references groups outcomes runs)
    (hp : ∀ g ∈ groups, ∀ o as, GroupOutcome.BuiltBy settings references g o as → P o as) :
    List.Forall₂ P outcomes runs := by
  induction h with
  | nil => exact .nil
  | cons h _ ih =>
    rw [List.forall_mem_cons] at hp
    exact .cons (hp.1 _ _ h) (ih hp.2)

end GroupsBuilt

/-- Every attempt at a group asks for a library under the group's name, made from the group's files. -/
theorem GroupCompile.Run.names {retries attempts removed : Nat} {g : CompilationGroup}
    {version : LanguageVersion} {references : List Path} {as : List Attempt}
    {r : Except ServiceError GroupCompile}
    (h : GroupCompile.Run retries attempts removed (g.request version references) as r) :
    ∀ a ∈ as, a.request.assemblyName = safeName g.key ∧
      a.request.sources.map SourceFile.path = g.units.map ParsedUnit.path := by
  refine h.forall_request (P := fun r => r.assemblyName = safeName g.key ∧
    r.sources.map SourceFile.path = g.units.map ParsedUnit.path) ⟨rfl, List.map_map⟩ ?_
  intro request output hp
  exact ⟨hp.1, (MissingSymbol.prune_paths _ _).trans hp.2⟩

/-! ## Building groups -/

namespace Engine

variable (e : Engine φ σ ρ)

theorem writeArtifacts_frame (output : EmitOutput) (o : GroupOutcome) (s : EngineState φ σ ρ) :
    (e.writeArtifacts output o s).1.key = o.key ∧
      (e.writeArtifacts output o s).1.files = o.files ∧
      (e.writeArtifacts output o s).2.service = s.service := by
  unfold writeArtifacts
  split <;> exact ⟨rfl, rfl, rfl⟩

theorem writeLog_frame (name : String) (t : TimeStamp) (o : GroupOutcome) (s : EngineState φ σ ρ) :
    (e.writeLog name t o s).1.key = o.key ∧ (e.writeLog name t o s).1.files = o.files ∧
      (e.writeLog name t o s).2.service = s.service := by
  unfold writeLog
  split <;> exact ⟨rfl, rfl, rfl⟩

/-- Nothing is asked of the service for a group besides its compile, and the outcome is that of the
group. -/
theorem buildGroup_frame (references : List Path) (t : TimeStamp) (g : CompilationGroup)
    (s : EngineState φ σ ρ) :
    (e.buildGroup references t g s).2.service = (e.compileGroup references g s).2.service ∧
      ∀ o, (e.buildGroup references t g s).1 = .ok o →
        o.key = g.key ∧ o.files = g.units.map ParsedUnit.path := by
  unfold buildGroup
  rcases e.compileGroup references g s with ⟨r, s'⟩
  cases r with
  | error err =>
    dsimp only
    split
    · exact ⟨rfl, fun o ho => by cases ho⟩
    · exact ⟨rfl, fun o ho => by cases ho; exact ⟨rfl, rfl⟩⟩
  | ok c =>
    dsimp only
    split
    · obtain ⟨hk, hf, hs⟩ := e.writeArtifacts_frame c.output (.ofCompile g c) s'
      exact ⟨hs, fun o ho => by cases ho; exact ⟨hk, hf⟩⟩
    · obtain ⟨hk, hf, hs⟩ := e.writeLog_frame g.displayName t (.ofCompile g c) s'
      exact ⟨hs, fun o ho => by cases ho; exact ⟨hk, hf⟩⟩

/-- What is asked of the service for a group is a run of attempts. -/
theorem buildGroup_run (references : List Path) (t : TimeStamp) (g : CompilationGroup)
    (s : EngineState φ (Traced σ ρ) ρ) :
    ∃ as, (e.traced.buildGroup references t g s).2.service.exchanges =
        s.service.exchanges ++ as.map Attempt.exchange ∧
      GroupCompile.Run e.settings.retryCount.toNat 0 0
        (g.request e.settings.languageVersion references) as
        (e.traced.compileGroup references g s).1 := by
  obtain ⟨as, hx, hr⟩ := GroupCompile.compileFrom_run e.service e.settings.retryCount.toNat 0 0
    (g.request e.settings.languageVersion references) ⟨s.service, s.phases⟩
  refine ⟨as, ?_, hr⟩
  rw [(e.traced.buildGroup_frame references t g s).1]
  exact hx

theorem buildGroup_builtBy (references : List Path) (t : TimeStamp) (g : CompilationGroup)
    (s : EngineState φ (Traced σ ρ) ρ) :
    ∃ as, (e.traced.buildGroup references t g s).2.service.exchanges =
        s.service.exchanges ++ as.map Attempt.exchange ∧
      ∀ o, (e.traced.buildGroup references t g s).1 = .ok o →
        GroupOutcome.BuiltBy e.settings references g o as := by
  obtain ⟨as, hx, hr⟩ := e.buildGroup_run references t g s
  obtain ⟨-, ho⟩ := e.traced.buildGroup_frame references t g s
  exact ⟨as, hx, fun o h => ⟨(ho o h).1, (ho o h).2, _, hr⟩⟩

variable {e} in
theorem Builds.built {references : List Path} {clock : Nat → TimeStamp} {index : Nat}
    {groups : List CompilationGroup} {s s' : EngineState φ (Traced σ ρ) ρ}
    {outcomes : List GroupOutcome}
    (h : e.traced.Builds references clock index groups s outcomes none s') :
    ∃ runs, s'.service.exchanges = s.service.exchanges ++ runs.flatten.map Attempt.exchange ∧
      GroupsBuilt e.settings references groups outcomes runs := by
  generalize hn : (none : Option ServiceError) = stop at h
  induction h with
  | done => exact ⟨[], (List.append_nil _).symm, .nil⟩
  | @next index g rest s o s' _ _ _ built _ ih =>
    obtain ⟨as, hx, hb⟩ := e.buildGroup_builtBy references (clock index) g s
    obtain ⟨runs, hxs, hbs⟩ := ih hn
    rw [built] at hx hb
    refine ⟨as :: runs, ?_, .cons (hb o rfl) hbs⟩
    rw [hxs, hx, List.flatten_cons, List.map_append, List.append_assoc]
  | ended => cases hn

/-! ## Builds -/

/-- A build that ends with a report takes in the files that are listed below its root and builds the
groups of their units; these are its exchanges. -/
inductive Reported (root : Path) (files : φ) : BuildReport → List (Exchange ρ) → Prop
  | mk {paths intake references parses outcomes runs}
      (listed : e.store.list root Intake.sourceExtension e.settings.includeSubdirectories files =
        .ok paths)
      (taken : Intake.Taken e.store e.settings files paths parses (.ok intake))
      (built : GroupsBuilt e.settings references
        (CompilationGroup.partition e.settings.pluginBaseType intake.units) outcomes runs) :
      Reported root files ⟨intake.units.length, intake.skipped, outcomes⟩
        (parses ++ runs.flatten.map Attempt.exchange)

theorem buildDir_reported {root : Path} {clock : Nat → TimeStamp} {s : EngineState φ σ ρ} {report}
    (h : (e.buildDir root clock s).1 = .ok report) :
    e.Reported root (Artifact.clean e.store e.workspace.outputDir s.files) report
      (e.exchanges root clock s) := by
  obtain ⟨s', passes, hx, -⟩ := @buildDir_passes_traced _ _ _ e root clock s (enabled_of_report h)
  rw [h] at passes
  cases passes with
  | reported taken _ refs groups =>
    obtain ⟨paths, parses, listed, hp, ht⟩ := Intake.ingest_taken e.service taken
    obtain ⟨runs, hr, built⟩ := groups.built
    have hs : s'.service.exchanges = parses ++ runs.flatten.map Attempt.exchange := by
      rw [hr, service_of_takeReferences refs]
      exact congrArg (· ++ _) hp
    rw [hx, hs]
    exact .mk listed ht built

end Engine

/-! ## Accounts -/

/-- A library was asked for with the files and under the name of a group, and the first texts asked
for are those in which the compiler read namespaces with the group's root. -/
structure GroupOutcome.EmittedIn (version : LanguageVersion) (xs : List (Exchange ρ))
    (o : GroupOutcome) (as : List Attempt) : Prop where
  requests : ∀ a ∈ as, a.request.assemblyName = safeName o.key ∧
    a.request.sources.map SourceFile.path = o.files
  first : ∃ a, as.head? = some a ∧ ∀ src ∈ a.request.sources, ∃ tree,
    .parse src version (.answer tree) ∈ xs ∧ o.key = rootNamespace tree.namespaceName

/-- A report accounts for listed files, given the exchanges of the build. -/
structure BuildReport.Accounts (version : LanguageVersion) (paths : List Path)
    (xs : List (Exchange ρ)) (report : BuildReport) : Prop where
  /-- Every listed file is skipped or in one group, as often as it is listed. -/
  once : (report.skipped.map SkippedFile.path ++
    report.groups.flatMap GroupOutcome.files).Perm paths
  skipped_sublist : List.Sublist (report.skipped.map SkippedFile.path) paths
  files_sublist : ∀ o ∈ report.groups, List.Sublist o.files paths
  total : report.files = (report.groups.flatMap GroupOutcome.files).length
  keys_nodup : (report.groups.map GroupOutcome.key).Nodup
  /-- The groups come in the order of their first files. -/
  firsts_sublist : ∃ firsts, report.groups.map (·.files.head?) = firsts.map some ∧
    List.Sublist firsts paths
  emitted : ∃ runs, Exchange.attempts xs = runs.flatten ∧
    List.Forall₂ (GroupOutcome.EmittedIn version xs) report.groups runs
  /-- No text of a file that is listed once is parsed twice, so the tree it was read in is one. -/
  sources_nodup : paths.Nodup → (Exchange.sources xs).Nodup

namespace GroupsBuilt

variable {settings : Settings} {references : List Path} {baseType : String}
  {units : List ParsedUnit} {outcomes : List GroupOutcome} {runs : List (List Attempt)}

theorem flatMap_files_perm
    (h : GroupsBuilt settings references (CompilationGroup.partition baseType units) outcomes
      runs) :
    (outcomes.flatMap GroupOutcome.files).Perm (units.map ParsedUnit.path) := by
  have hf := congrArg List.flatten h.files
  rw [List.flatMap_def, hf]
  have hp := (CompilationGroup.partition_perm baseType units).map ParsedUnit.path
  rwa [List.map_flatMap, List.flatMap_def] at hp

theorem files_sublist
    (h : GroupsBuilt settings references (CompilationGroup.partition baseType units) outcomes runs)
    {o : GroupOutcome} (ho : o ∈ outcomes) :
    List.Sublist o.files (units.map ParsedUnit.path) := by
  have hm : o.files ∈ outcomes.map GroupOutcome.files := List.mem_map_of_mem ho
  rw [h.files] at hm
  obtain ⟨g, hg, he⟩ := List.mem_map.1 hm
  rw [← he, (CompilationGroup.units_of_mem_partition hg).1]
  exact List.filter_sublist.map _

theorem firsts_sublist
    (h : GroupsBuilt settings references (CompilationGroup.partition baseType units) outcomes
      runs) :
    ∃ firsts, outcomes.map (·.files.head?) = firsts.map some ∧
      List.Sublist firsts (units.map ParsedUnit.path) := by
  obtain ⟨firsts, hf, hs⟩ := CompilationGroup.partition_firsts baseType units
  refine ⟨firsts.map ParsedUnit.path, ?_, hs.map ParsedUnit.path⟩
  calc outcomes.map (·.files.head?)
      = (outcomes.map GroupOutcome.files).map List.head? := by
        rw [List.map_map]
        rfl
    _ = ((CompilationGroup.partition baseType units).map (·.units.head?)).map
          (Option.map ParsedUnit.path) := by
        rw [h.files, List.map_map, List.map_map]
        exact List.map_congr_left fun g _ => List.head?_map
    _ = (firsts.map ParsedUnit.path).map some := by
        rw [hf, List.map_map, List.map_map]
        rfl

end GroupsBuilt

/-- A unit of a group has the group's key for its root, in the tree that it came with. -/
theorem Intake.Taken.key_of_mem_partition {fs : FileSystem φ} {settings : Settings} {files : φ}
    {paths : List Path} {xs : List (Exchange ρ)} {intake : IntakeReport}
    (h : Intake.Taken fs settings files paths xs (.ok intake)) {baseType : String}
    {g : CompilationGroup} (hg : g ∈ CompilationGroup.partition baseType intake.units)
    {u : ParsedUnit} (hu : u ∈ g.units) :
    .parse u.source settings.languageVersion (.answer u.tree) ∈ xs ∧
      g.key = rootNamespace u.tree.namespaceName := by
  rw [(CompilationGroup.units_of_mem_partition hg).1, List.mem_filter] at hu
  obtain ⟨hm, hk⟩ := hu
  obtain ⟨he, hx⟩ := h.units u hm
  refine ⟨hx, ?_⟩
  rw [← of_decide_eq_true hk, he]
  rfl

theorem GroupOutcome.BuiltBy.emittedIn {settings : Settings} {references : List Path}
    {g : CompilationGroup} {o : GroupOutcome} {as : List Attempt} {xs : List (Exchange ρ)}
    (h : GroupOutcome.BuiltBy settings references g o as)
    (hu : ∀ u ∈ g.units, .parse u.source settings.languageVersion (.answer u.tree) ∈ xs ∧
      g.key = rootNamespace u.tree.namespaceName) :
    GroupOutcome.EmittedIn settings.languageVersion xs o as where
  requests := by
    obtain ⟨_, hr⟩ := h.run
    rw [h.key, h.files]
    exact hr.names
  first := by
    obtain ⟨_, hr⟩ := h.run
    obtain ⟨answer, rest, rfl⟩ := hr.head
    refine ⟨_, rfl, fun src hs => ?_⟩
    obtain ⟨u, hm, rfl⟩ := List.mem_map.1 hs
    exact ⟨u.tree, (hu u hm).1, h.key.trans (hu u hm).2⟩

namespace Engine

variable {e : Engine φ σ ρ} {root : Path} {files : φ} {report : BuildReport}
  {xs : List (Exchange ρ)}

theorem Reported.accounts (h : e.Reported root files report xs) :
    ∃ paths, e.store.list root Intake.sourceExtension e.settings.includeSubdirectories files =
        .ok paths ∧
      report.Accounts e.settings.languageVersion paths xs := by
  obtain @⟨paths, intake, references, parses, outcomes, runs, hl, ht, hg⟩ := h
  obtain ⟨hp, hskipped, hunits⟩ := ht.accounts
  have hf := hg.flatMap_files_perm
  refine ⟨paths, hl, ?_⟩
  constructor
  case once => exact (hf.append_left _).trans hp
  case skipped_sublist => exact hskipped
  case files_sublist => exact fun o ho => (hg.files_sublist ho).trans hunits
  case total =>
    exact (hf.length_eq.trans (List.length_map _)).symm
  case keys_nodup =>
    rw [hg.keys]
    exact CompilationGroup.partition_keys_nodup _ _
  case firsts_sublist =>
    obtain ⟨firsts, hm, hs⟩ := hg.firsts_sublist
    exact ⟨firsts, hm, hs.trans hunits⟩
  case emitted =>
    refine ⟨runs, ?_, hg.forall₂ fun g hm o as hb => hb.emittedIn fun u hu => ?_⟩
    · rw [Exchange.attempts_append, ht.attempts, Exchange.attempts_map_exchange, List.nil_append]
    · exact (ht.key_of_mem_partition hm hu).imp_left (List.mem_append_left _)
  case sources_nodup =>
    intro hn
    rw [Exchange.sources_append, Exchange.sources_map_exchange, List.append_nil]
    exact (ht.sources hn).1

/-- A build that ends with a report accounts for the files that are listed below its root once the
output folder is cleared. -/
theorem buildDir_accounts (e : Engine φ σ ρ) (root : Path) (clock : Nat → TimeStamp)
    (s : EngineState φ σ ρ) (h : (e.buildDir root clock s).1 = .ok report) :
    ∃ paths, e.store.list root Intake.sourceExtension e.settings.includeSubdirectories
          (Artifact.clean e.store e.workspace.outputDir s.files) = .ok paths ∧
      report.Accounts e.settings.languageVersion paths (e.exchanges root clock s) :=
  (e.buildDir_reported h).accounts

/-- An engine over a file system in memory and a compile service whose answers are set. -/
def inMemory : Engine MemoryStore (List Scripted.EmitAnswer) Scripted.Code where
  settings := { Settings.standard with defaultImports := [] }
  workspace := ⟨⟨"w"⟩⟩
  roots := .ofWorkspace ⟨⟨"w"⟩⟩ none none
  store := MemoryStore.fileSystem
  service := Scripted.service ⟨[], [], []⟩
  extraAssemblies := []

/-- A source directory with two plugins, the first of them in two files, and an empty file. -/
def twoPlugins : MemoryStore where
  files := [
    ("w/assemblies/a.dll", standInLibrary),
    ("w/source/a.cs", Encoding.toUtf8 "namespace My.A { }"),
    ("w/source/b.cs", []),
    ("w/source/c.cs", Encoding.toUtf8 "namespace It { }"),
    ("w/source/d.cs", Encoding.toUtf8 "namespace My.B { }")]
  dirs := []

def newYear : TimeStamp := ⟨2024, 1, 1, 0, 0, 0⟩

theorem buildDir_accounts_two_plugins :
    ∃ report paths,
      (inMemory.buildDir ⟨"w/source"⟩ (fun _ => newYear) (.start twoPlugins [])).1 = .ok report ∧
      report.groups.map GroupOutcome.key = ["My", "It"] ∧
      paths = [⟨"w/source/a.cs"⟩, ⟨"w/source/b.cs"⟩, ⟨"w/source/c.cs"⟩, ⟨"w/source/d.cs"⟩] ∧
      report.Accounts .csharp11 paths
        (inMemory.exchanges ⟨"w/source"⟩ (fun _ => newYear) (.start twoPlugins [])) := by
  have hk : (inMemory.buildDir ⟨"w/source"⟩ (fun _ => newYear)
      (.start twoPlugins [])).1.toOption.map (·.groups.map GroupOutcome.key) =
        some ["My", "It"] := by
    decide +kernel
  cases h : (inMemory.buildDir ⟨"w/source"⟩ (fun _ => newYear) (.start twoPlugins [])).1 with
  | error err =>
    rw [h] at hk
    cases hk
  | ok report =>
    rw [h] at hk
    obtain ⟨paths, hl, ha⟩ := inMemory.buildDir_accounts _ _ _ h
    refine ⟨report, paths, rfl, Option.some.inj hk, ?_, ha⟩
    have hp := congrArg Except.toOption hl
    exact Option.some.inj (hp.symm.trans (by decide +kernel))

end Engine
end PluginForge
