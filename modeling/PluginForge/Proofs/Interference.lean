/-
Groups do not interfere. When two builds take the same references and read the same sources into a
root namespace, they ask the compiler the same for that namespace and report the same of it,
whatever else they take in, as long as both end with a report and no change of the file system
fails.

What a file is parsed to follows from its bytes, so the two builds have the same group; what comes
of a group follows from its sources and the references. A group is known among the requests by its
files, since no two groups have a file in common.
-/
import PluginForge.Proofs.Deliveries

namespace PluginForge

variable {φ σ ρ : Type}

/-! ## Sources -/

namespace Intake

/-- A file that is read is read with its bytes and what they decode to. -/
theorem readUnit_eq_some {fs : FileSystem φ} {p : Path} {files : φ} {v : SourceUnit}
    (h : readUnit fs p files = .ok (some v)) :
    ∃ bytes, fs.read p files = .ok bytes ∧
      v = ⟨p, bytes, (Encoding.decode bytes).2, (Encoding.decode bytes).1⟩ := by
  unfold readUnit at h
  cases hn : fs.size p files with
  | error err =>
    rw [hn] at h
    cases h
  | ok n =>
    rw [hn] at h
    cases hr : fs.read p files with
    | error err =>
      rw [hr] at h
      change (if n = 0 then _ else _) = _ at h
      split at h <;> cases h
    | ok bytes =>
      rw [hr] at h
      change (if n = 0 then _ else _) = _ at h
      split at h
      · cases h
      · cases h
        exact ⟨bytes, rfl, rfl⟩

variable {fs : FileSystem φ} {settings : Settings} {files files' : φ} {p : Path}
  {parse : SourceFile → LanguageVersion → Outcome SyntaxTree}
  {emit : EmitRequest → Outcome EmitOutput}

theorem FileIntake.read {xs : List (Exchange ρ)} {u : ParsedUnit}
    (h : FileIntake fs settings files p xs (.ok (.parsed u))) :
    ∃ v, readUnit fs p files = .ok (some v) := by
  cases h with
  | text hu => exact ⟨_, hu⟩

/-- A unit follows from the place and the bytes of its file. -/
theorem Taken.unit_unique {paths paths' : List Path} {xs ys : List (Exchange ρ)}
    {intake intake' : IntakeReport} (h : Taken fs settings files paths xs (.ok intake))
    (h' : Taken fs settings files' paths' ys (.ok intake'))
    (hx : ∀ x ∈ xs, x.AnsweredBy parse emit) (hy : ∀ y ∈ ys, y.AnsweredBy parse emit)
    {u u' : ParsedUnit} (hu : u ∈ intake.units) (hu' : u' ∈ intake'.units)
    (hp : u.path = u'.path) (hr : fs.read u.path files = fs.read u'.path files') : u = u' := by
  obtain ⟨p, zs, hf, hz⟩ := h.origin u hu
  obtain ⟨p', zs', hf', hz'⟩ := h'.origin u' hu'
  obtain rfl : u.path = p := congrArg ParsedUnit.path hf.parsed.1
  obtain rfl : u'.path = p' := congrArg ParsedUnit.path hf'.parsed.1
  obtain ⟨v, hv⟩ := hf.read
  obtain ⟨v', hv'⟩ := hf'.read
  obtain ⟨bytes, hb, rfl⟩ := readUnit_eq_some hv
  obtain ⟨bytes', hb', rfl⟩ := readUnit_eq_some hv'
  obtain rfl : bytes = bytes' := Except.ok.inj (hb.symm.trans (hr.trans hb'))
  rw [← hp] at hf' hv'
  have same := hf.unique hf' (hv.trans hv'.symm) (fun x hm => hx x (hz hm))
    fun y hm => hy y (hz' hm)
  exact FileOutcome.parsed.inj (Except.ok.inj same.2)

end Intake

/-- Lists with the same images are the same, if equal images come from equal elements. -/
theorem eq_of_map_eq {α β : Type} {f g : α → β} {xs ys : List α}
    (h : xs.map f = ys.map g) (inj : ∀ x ∈ xs, ∀ y ∈ ys, f x = g y → x = y) : xs = ys := by
  induction xs generalizing ys with
  | nil => exact (List.map_eq_nil_iff.1 h.symm).symm
  | cons x xs ih =>
    obtain ⟨y, ys, rfl, hy, hys⟩ := List.map_eq_cons_iff.1 h.symm
    rw [inj x List.mem_cons_self y List.mem_cons_self hy.symm, ih hys.symm fun a ha b hb =>
      inj a (List.mem_cons_of_mem _ ha) b (List.mem_cons_of_mem _ hb)]

/-! ## Groups -/

namespace CompilationGroup

variable {baseType : String} {units : List ParsedUnit}

theorem eq_ofUnits {g : CompilationGroup} (h : g ∈ partition baseType units) :
    g = ofUnits baseType g.key g.units := by
  obtain ⟨⟨key, own⟩, -, rfl⟩ := List.mem_map.1 h
  rfl

/-- The group of a key follows from the units with that root. -/
theorem partition_filter (key : String) :
    (partition baseType units).filter (fun g => g.key = key) =
      if units.filter (fun u => u.rootName = key) = [] then []
      else [ofUnits baseType key (units.filter fun u => u.rootName = key)] := by
  split
  · rename_i hu
    refine List.filter_eq_nil_iff.2 fun g hg hk => ?_
    obtain ⟨own, some⟩ := units_of_mem_partition hg
    rw [of_decide_eq_true hk, hu] at own
    exact some own
  · rename_i hu
    obtain ⟨u, hu⟩ := List.exists_mem_of_ne_nil _ hu
    obtain ⟨hm, hk⟩ := List.mem_filter.1 hu
    obtain ⟨g, hg, hgk⟩ := List.mem_map.1
      (mem_partition_keys.2 (List.mem_map.2 ⟨u, hm, of_decide_eq_true hk⟩))
    have own := (units_of_mem_partition hg).1
    have whole := eq_ofUnits hg
    rw [own, hgk] at whole
    rw [← whole]
    have nodup := partition_keys_nodup baseType units
    refine List.perm_singleton.1 ((List.perm_ext_iff_of_nodup (nodup.of_map.filter _)
      (List.nodup_singleton g)).2 fun g' => ?_)
    rw [List.mem_singleton, List.mem_filter, decide_eq_true_eq]
    constructor
    · rintro ⟨hg', hk'⟩
      exact List.inj_on_of_nodup_map nodup hg' hg (hk'.trans hgk.symm)
    · rintro rfl
      exact ⟨hg, hgk⟩

end CompilationGroup

/-! ## Builds -/

/-- The outcome of the group of a key. -/
def BuildReport.groupOf? (r : BuildReport) (key : String) : Option GroupOutcome :=
  r.groups.find? fun o => o.key = key

namespace Engine

section

variable (e : Engine φ σ ρ) (key : String) (root : Path) (clock : Nat → TimeStamp)
  (s : EngineState φ σ ρ)

/-- The files that a build takes into the root namespace `key`, each with what is read from it. -/
def sourcesOf : List (Path × Except StoreError Bytes) :=
  match e.intake root s with
  | .ok intake => (intake.units.filter fun u => u.rootName = key).map fun u =>
      (u.path, e.store.read u.path (e.cleared s))
  | .error _ => []

/-- The requests of a build for a library of just the files of the root namespace `key`. -/
def requestsFor : List EmitRequest :=
  ((Exchange.attempts (e.exchanges root clock s)).map Attempt.request).filter fun r =>
    r.sources.map SourceFile.path = (e.sourcesOf key root s).map Prod.fst

end

variable {e : Engine φ σ ρ}

section

variable {root : Path} {s : EngineState φ σ ρ} {report : BuildReport}
  {xs : List (Exchange ρ)} {left : φ} {paths : List Path} {parses : List (Exchange ρ)}
  {intake : IntakeReport} {references : List Path} {ds : List Delivery}
  (h : e.Delivers root s report xs left paths parses intake references ds)

include h

theorem Delivers.groups_of_key (key : String) :
    (ds.filter fun d => d.group.key = key).map Delivery.group =
      (CompilationGroup.partition e.settings.pluginBaseType intake.units).filter
        fun g => g.key = key := by
  rw [← h.groups, List.filter_map]
  rfl

theorem Delivers.groupOf? (key : String) :
    report.groupOf? key =
      ((ds.filter fun d => d.group.key = key).map (Delivery.outcome e.workspace)).head? := by
  rw [h.reports, BuildReport.groupOf?, ← List.head?_filter, List.filter_map]
  simp only [Function.comp_def, Delivery.outcome_key]

theorem Delivers.attempts : Exchange.attempts xs = ds.flatMap Delivery.attempts := by
  rw [h.exchanges, Exchange.attempts_append, h.parsed.attempts, Exchange.attempts_map_exchange,
    List.nil_append]

theorem Delivers.sourcesOf (key : String) :
    e.sourcesOf key root s = (intake.units.filter fun u => u.rootName = key).map fun u =>
      (u.path, e.store.read u.path (e.cleared s)) := by
  rw [Engine.sourcesOf, h.taken]

/-- No two groups have a file in common. -/
theorem Delivers.paths_of_key {parse : SourceFile → LanguageVersion → Outcome SyntaxTree}
    {emit : EmitRequest → Outcome EmitOutput} (answered : ∀ x ∈ parses, x.AnsweredBy parse emit)
    (key : String) {d : Delivery} (hd : d ∈ ds) :
    d.group.units.map ParsedUnit.path = (e.sourcesOf key root s).map Prod.fst ↔
      d.group.key = key := by
  have hg : d.group ∈ CompilationGroup.partition e.settings.pluginBaseType intake.units := by
    rw [← h.groups]
    exact List.mem_map_of_mem hd
  obtain ⟨own, some⟩ := CompilationGroup.units_of_mem_partition hg
  have files : (e.sourcesOf key root s).map Prod.fst =
      (intake.units.filter fun u => u.rootName = key).map ParsedUnit.path := by
    rw [h.sourcesOf, List.map_map]
    rfl
  rw [files]
  constructor
  · intro hp
    obtain ⟨u, hu⟩ := List.exists_mem_of_ne_nil _ some
    obtain ⟨u', hu', hp'⟩ := List.mem_map.1 (hp ▸ List.mem_map_of_mem hu)
    rw [own] at hu
    obtain ⟨hm, hk⟩ := List.mem_filter.1 hu
    obtain ⟨hm', hk'⟩ := List.mem_filter.1 hu'
    -- one file is parsed to one unit, and this has one root
    obtain rfl := h.parsed.unit_unique h.parsed answered answered hm' hm hp' (by rw [hp'])
    exact (of_decide_eq_true hk).symm.trans (of_decide_eq_true hk')
  · intro hk
    rw [own, hk]

/-- Of the requests, those for the files of a root are those for its group. -/
theorem Delivers.requests_of_key {parse : SourceFile → LanguageVersion → Outcome SyntaxTree}
    {emit : EmitRequest → Outcome EmitOutput} (answered : ∀ x ∈ parses, x.AnsweredBy parse emit)
    (key : String) :
    ((Exchange.attempts xs).map Attempt.request).filter (fun r =>
        r.sources.map SourceFile.path = (e.sourcesOf key root s).map Prod.fst) =
      ((ds.filter fun d => d.group.key = key).flatMap Delivery.attempts).map Attempt.request := by
  have names : ∀ d ∈ ds, ∀ a ∈ d.attempts, a.request.sources.map SourceFile.path =
      d.group.units.map ParsedUnit.path := fun d hd a ha => ((h.runs d hd).names a ha).2
  have own : ∀ d ∈ ds, d.group.units.map ParsedUnit.path =
      (e.sourcesOf key root s).map Prod.fst ↔ d.group.key = key := fun d hd =>
    h.paths_of_key answered key hd
  rw [h.attempts]
  generalize (e.sourcesOf key root s).map Prod.fst = files at own ⊢
  clear h
  induction ds with
  | nil => rfl
  | cons d rest ih =>
    obtain ⟨first, names⟩ := List.forall_mem_cons.1 names
    obtain ⟨mine, own⟩ := List.forall_mem_cons.1 own
    rw [List.flatMap_cons, List.map_append, List.filter_append, ih names own]
    by_cases hk : d.group.key = key
    · have all : (d.attempts.map Attempt.request).filter (fun r =>
          r.sources.map SourceFile.path = files) = d.attempts.map Attempt.request := by
        refine List.filter_eq_self.2 fun r hr => ?_
        obtain ⟨a, ha, rfl⟩ := List.mem_map.1 hr
        exact decide_eq_true ((first a ha).trans (mine.2 hk))
      simp only [all, List.filter_cons, hk, decide_true, if_true, List.flatMap_cons,
        List.map_append]
    · have none : (d.attempts.map Attempt.request).filter (fun r =>
          r.sources.map SourceFile.path = files) = [] := by
        refine List.filter_eq_nil_iff.2 fun r hr he => hk (mine.1 ?_)
        obtain ⟨a, ha, rfl⟩ := List.mem_map.1 hr
        exact (first a ha).symm.trans (of_decide_eq_true he)
      simp only [none, List.nil_append, List.filter_cons, hk, decide_false, Bool.false_eq_true,
        if_false]

end

/-- Two builds that end with a report, take the same references and read the same sources into a
root namespace, ask for the same libraries of it and report the same of it but for the time in the
name of its log, if the compiler answers by what it is asked and no change of the file system fails.
-/
theorem buildDir_isolates {parse : SourceFile → LanguageVersion → Outcome SyntaxTree}
    {emit : EmitRequest → Outcome EmitOutput} (answers : e.service.AnswersBy parse emit)
    {root root' : Path} {clock clock' : Nat → TimeStamp} {s s' : EngineState φ σ ρ}
    {report report' : BuildReport} (ok : (e.buildDir root clock s).1 = .ok report)
    (ok' : (e.buildDir root' clock' s').1 = .ok report')
    (succeed : ∀ c ∈ e.changes root clock s, c.succeeds = true)
    (succeed' : ∀ c ∈ e.changes root' clock' s', c.succeeds = true)
    (references : e.referenceSet s = e.referenceSet s') (key : String)
    (sources : e.sourcesOf key root s = e.sourcesOf key root' s') :
    e.requestsFor key root clock s = e.requestsFor key root' clock' s' ∧
      Option.Rel (GroupOutcome.SameAt e.workspace.logsDir) (report.groupOf? key)
        (report'.groupOf? key) := by
  obtain ⟨paths, parses, intake, refs, ds, h⟩ := buildDir_delivers ok succeed
  obtain ⟨paths', parses', intake', refs', ds', h'⟩ := buildDir_delivers ok' succeed'
  obtain ⟨parsed, emitted⟩ := h.answered (exchanges_answeredBy answers root clock s)
  obtain ⟨parsed', emitted'⟩ := h'.answered (exchanges_answeredBy answers root' clock' s')
  obtain rfl : refs = refs' :=
    Except.ok.inj (h.resolves.symm.trans (references.trans h'.resolves))
  have units : (intake.units.filter fun u => u.rootName = key) =
      intake'.units.filter fun u => u.rootName = key := by
    have images := sources
    rw [h.sourcesOf, h'.sourcesOf] at images
    refine eq_of_map_eq images fun u hu u' hu' same => ?_
    obtain ⟨hp, hr⟩ := Prod.mk.inj same
    exact h.parsed.unit_unique h'.parsed parsed parsed' (List.mem_of_mem_filter hu)
      (List.mem_of_mem_filter hu') hp hr
  have groups : (ds.filter fun d => d.group.key = key).map Delivery.group =
      (ds'.filter fun d => d.group.key = key).map Delivery.group := by
    rw [h.groups_of_key, h'.groups_of_key, CompilationGroup.partition_filter,
      CompilationGroup.partition_filter, units]
  have same := Delivery.sameAs_of_groups groups
    (fun d hd => h.runs d (List.mem_of_mem_filter hd))
    (fun d hd => h'.runs d (List.mem_of_mem_filter hd))
    (fun d hd => emitted d (List.mem_of_mem_filter hd))
    (fun d hd => emitted' d (List.mem_of_mem_filter hd))
  constructor
  · rw [requestsFor, requestsFor, h.requests_of_key parsed, h'.requests_of_key parsed',
      Delivery.attempts_of_sameAs same]
  · rw [h.groupOf?, h'.groupOf?]
    have outcomes := Delivery.outcomes_of_sameAs same e.workspace
    generalize (ds.filter fun d => d.group.key = key).map (Delivery.outcome e.workspace) = os at *
    generalize (ds'.filter fun d => d.group.key = key).map (Delivery.outcome e.workspace) = os' at *
    cases outcomes with
    | nil => exact .none
    | cons first _ => exact .some first

/-- A compiler that crashes over some texts, misses an import of one plugin and a name in another.
-/
def troubled : Engine MemoryStore Unit Scripted.Code :=
  inMemory.withService (Scripted.ruled {
    parse := [⟨none, some "crash", .crash none⟩]
    emit := [⟨some "My", some "Api", .blameFirstImport⟩,
      ⟨some "It", none, .fixed (.answer (.failed [Scripted.notFound "Lost"]))⟩]
    script := [] })

/-- A plugin with an import that the compiler misses. -/
def plugin : List (String × Bytes) := [
  ("w/assemblies/a.dll", standInLibrary),
  ("w/source/b.cs", Encoding.toUtf8 "using Api;\nnamespace My {}")]

/-- The plugin and two files more: one that fails to compile, and one that crashes the compiler. -/
def crowded : List (String × Bytes) :=
  plugin ++ [
    ("w/source/c.cs", Encoding.toUtf8 "namespace It {}"),
    ("w/source/d.cs", Encoding.toUtf8 "namespace My {crash}")]

theorem buildDir_isolates_crowded_plugin :
    ∃ report report',
      (troubled.buildDir ⟨"w/source"⟩ (fun _ => newYear) (.start ⟨plugin, []⟩ ())).1 = .ok report ∧
      (troubled.buildDir ⟨"w/source"⟩ (fun _ => newYear) (.start ⟨crowded, []⟩ ())).1 = .ok report' ∧
      report.groups.map (fun o => (o.key, o.success)) = [("My", true)] ∧
      report'.groups.map (fun o => (o.key, o.success)) = [("My", true), ("It", false)] ∧
      troubled.requestsFor "My" ⟨"w/source"⟩ (fun _ => newYear) (.start ⟨plugin, []⟩ ()) =
        troubled.requestsFor "My" ⟨"w/source"⟩ (fun _ => newYear) (.start ⟨crowded, []⟩ ()) ∧
      Option.Rel (GroupOutcome.SameAt troubled.workspace.logsDir) (report.groupOf? "My")
        (report'.groupOf? "My") := by
  obtain ⟨report, ok, groups, succeed⟩ := troubled.exists_report_recorded ⟨"w/source"⟩
    (fun _ => newYear) (.start ⟨plugin, []⟩ ()) (fun o => (o.key, o.success)) [("My", true)]
    (by decide +kernel)
  obtain ⟨report', ok', groups', succeed'⟩ := troubled.exists_report_recorded ⟨"w/source"⟩
    (fun _ => newYear) (.start ⟨crowded, []⟩ ()) (fun o => (o.key, o.success))
    [("My", true), ("It", false)] (by decide +kernel)
  exact ⟨report, report', ok, ok', groups, groups',
    buildDir_isolates (e := troubled) (Scripted.ruled_answersBy _) ok ok' succeed succeed'
      (by decide +kernel) "My" (by decide +kernel)⟩

end Engine
end PluginForge
