/-
Files that cannot be read. When the sources below a root are taken in, such a file is skipped with
the reason, and apart from that everything goes as if it were not listed: the other files become what
they become without it, and the compiler is asked and answers the same. But all files are measured
first, and one file that cannot be measured keeps the whole intake from starting.
-/
import PluginForge.Compiler.Scripted
import PluginForge.Proofs.Exhaustion
import PluginForge.Store.Faults
import PluginForge.Store.Memory

namespace PluginForge

variable {φ σ ρ : Type}

/-- The file system with files of which `bad` holds left out of every listing. -/
def FileSystem.hiding (fs : FileSystem φ) (bad : Path → Bool) : FileSystem φ :=
  { fs with
    list := fun dir extension deep s =>
      (fs.list dir extension deep s).map (·.filter (! bad ·)) }

/-- The report with files of which `bad` holds left out of the skipped ones. -/
def IntakeReport.without (bad : Path → Bool) (report : IntakeReport) : IntakeReport :=
  { report with skipped := report.skipped.filter (! bad ·.path) }

namespace Intake

variable {fs : FileSystem φ} {settings : Settings} {root : Path} {files : φ} {paths : List Path}
  {bad : Path → Bool}

/-! ## Discovery -/

/-- The sources below a root are listed and measured, and they are within the limits. -/
structure WithinLimits (fs : FileSystem φ) (settings : Settings) (root : Path) (files : φ)
    (paths : List Path) : Prop where
  listed : Listed fs settings root files paths
  few : paths.length ≤ settings.maxFiles.toNat
  small : ∃ sizes, Measured fs files paths sizes ∧ sizes.sum / mebibyte ≤ settings.maxSizeMB.toNat

theorem WithinLimits.discover (h : WithinLimits fs settings root files paths) :
    discover fs settings root files = (.ok paths, files) := by
  obtain ⟨sizes, hm, hs⟩ := h.small
  -- A sum that does not fit its word counts for less.
  have counted : sizes.sum % 2 ^ 64 / mebibyte ≤ settings.maxSizeMB.toNat :=
    Nat.le_trans (Nat.div_le_div_right (Nat.mod_le ..)) hs
  rw [discover_of_measured h.listed hm, if_neg (Nat.not_lt.2 h.few), if_neg (Nat.not_lt.2 counted)]

/-- Some of the files have their sizes, and these add up to no more. -/
theorem Measured.filter {sizes : List Nat} (h : Measured fs files paths sizes)
    (keep : Path → Bool) :
    ∃ sizes', Measured fs files (paths.filter keep) sizes' ∧ sizes'.sum ≤ sizes.sum := by
  induction h with
  | nil => exact ⟨[], .nil, Nat.le_refl _⟩
  | @cons p n _ sizes hp _ ih =>
    obtain ⟨sizes', hm, hs⟩ := ih
    rw [List.sum_cons]
    cases hk : keep p with
    | false =>
      rw [List.filter_cons_of_neg (by simp [hk])]
      exact ⟨sizes', hm, Nat.le_trans hs (Nat.le_add_left _ _)⟩
    | true =>
      rw [List.filter_cons_of_pos hk]
      refine ⟨n :: sizes', .cons hp hm, ?_⟩
      rw [List.sum_cons]
      exact Nat.add_le_add_left hs n

/-- Fewer files are within the limits, too. -/
theorem WithinLimits.hiding (h : WithinLimits fs settings root files paths) (bad : Path → Bool) :
    WithinLimits (fs.hiding bad) settings root files (paths.filter (! bad ·)) where
  listed := by
    refine ⟨h.listed.isDir, ?_⟩
    have hl : (fs.list root sourceExtension settings.includeSubdirectories files).map
        (·.filter (! bad ·)) = .ok (paths.filter (! bad ·)) := by
      rw [h.listed.list]
      rfl
    exact hl
  few := Nat.le_trans (List.length_filter_le _ _) h.few
  small := by
    obtain ⟨sizes, hm, hs⟩ := h.small
    obtain ⟨sizes', hm', hs'⟩ := hm.filter (! bad ·)
    exact ⟨sizes', hm', Nat.le_trans (Nat.div_le_div_right hs') hs⟩

/-! ## All files -/

/-- A file that is not empty, but refuses to be read. -/
theorem readUnit_of_read {p : Path} {n : Nat} {e : StoreError} (hs : fs.size p files = .ok n)
    (hn : n ≠ 0) (hr : fs.read p files = .error e) : readUnit fs p files = .error e := by
  unfold readUnit
  rw [hs, hr]
  exact if_neg hn

theorem without_addFile_of_bad {p : Path} (hb : bad p = true) (reason : SkipReason)
    (report : IntakeReport) :
    (addFile p (.skipped reason) report).without bad = report.without bad := by
  simp [addFile, IntakeReport.without, hb]

theorem without_addFile_of_not_bad {p : Path} (hb : bad p = false) (o : FileOutcome)
    (report : IntakeReport) :
    (addFile p o report).without bad = addFile p o (report.without bad) := by
  cases o <;> simp [addFile, IntakeReport.without, hb]

/-- Files that cannot be read may as well be left out. -/
theorem ingestAll_filter (service : CompileService σ ρ)
    (unread : ∀ p ∈ paths, bad p = true → ∃ e, readUnit fs p files = .error e)
    (done : IntakeReport) (s : σ) :
    ingestAll (fs.hiding bad) service settings files (done.without bad) (paths.filter (! bad ·)) s =
      Prod.map (Except.map (IntakeReport.without bad)) id
        (ingestAll fs service settings files done paths s) := by
  induction paths generalizing done s with
  | nil =>
    simp only [List.filter_nil, ingestAll, IntakeReport.without, Prod.map_apply, Except.map,
      List.filter_reverse, id_eq]
  | cons p rest ih =>
    rw [List.forall_mem_cons] at unread
    obtain ⟨hp, hrest⟩ := unread
    rw [ingestAll_cons service fs]
    cases hb : bad p with
    | true =>
      obtain ⟨e, he⟩ := hp hb
      have hfile : ingestFile fs service settings files p s =
          (.ok (.skipped (.readFailed e.message)), s) := by
        unfold ingestFile
        rw [he]
      have hsettled : settled (ingestFile fs service settings files p s).1 =
          .ok (.skipped (.readFailed e.message)) := by
        rw [hfile]
        rfl
      rw [hsettled, List.filter_cons_of_neg (by simp [hb]), hfile]
      dsimp only
      rw [← ih hrest, without_addFile_of_bad hb]
    | false =>
      have hsame : ingestFile (fs.hiding bad) service settings files p s =
          ingestFile fs service settings files p s := rfl
      rw [List.filter_cons_of_pos (by simp [hb]), ingestAll_cons service (fs.hiding bad), hsame]
      cases settled (ingestFile fs service settings files p s).1 with
      | error e => rfl
      | ok o =>
        dsimp only
        rw [← ih hrest, without_addFile_of_not_bad hb]

/-! ## Intakes -/

/-- Every file of which `bad` holds was skipped because it could not be read. -/
def Skips (fs : FileSystem φ) (files : φ) (paths : List Path) (bad : Path → Bool)
    (report : IntakeReport) : Prop :=
  ∀ p ∈ paths, bad p = true → ∃ e, readUnit fs p files = .error e ∧
    ⟨p, .readFailed e.message⟩ ∈ report.skipped

theorem Taken.skips {xs : List (Exchange ρ)} {report : IntakeReport}
    (h : Taken fs settings files paths xs (.ok report))
    (unread : ∀ p ∈ paths, bad p = true → ∃ e, readUnit fs p files = .error e) :
    Skips fs files paths bad report := by
  intro p hp hb
  obtain ⟨e, he⟩ := unread p hp hb
  obtain ⟨ys, r, o, hf, ho, hr⟩ := h.outcomes p hp
  refine ⟨e, he, ?_⟩
  cases hf with
  | unread h =>
    rw [he] at h
    cases h
    cases ho
    exact hr
  | empty h | blank h | text h =>
    rw [he] at h
    cases h

/-- A file that cannot be measured keeps the intake from starting. -/
theorem ingest_unmeasured (service : CompileService σ ρ) (s : σ)
    (listed : Listed fs settings root files paths) (few : paths.length ≤ settings.maxFiles.toNat)
    {p : Path} (hp : p ∈ paths) {e : StoreError} (h : fs.size p files = .error e) :
    ∃ e', ingest fs service settings root files s = (.error (.store e'), files, s) := by
  obtain ⟨e', he⟩ : ∃ e', totalSize fs files paths = .error e' := totalFrom_eq_error hp h 0
  refine ⟨e', ?_⟩
  unfold ingest
  rw [listed.discover, if_neg (Nat.not_lt.2 few), he]

/-- When the sources are within the limits, those that cannot be read are skipped and otherwise do
not matter, and nothing but a compiler without memory ends the intake. -/
theorem ingest_unreadable (service : CompileService σ ρ) (s : σ)
    (within : WithinLimits fs settings root files paths)
    (unread : ∀ p ∈ paths, bad p = true → ∃ e, readUnit fs p files = .error e) :
    ingest (fs.hiding bad) service settings root files s =
        Prod.map (Except.map (IntakeReport.without bad)) id
          (ingest fs service settings root files s) ∧
      match (ingest fs service settings root files s).1 with
      | .ok report => Skips fs files paths bad report
      | .error err => ∃ e, err = .service e ∧ e.isOutOfMemory = true := by
  constructor
  · have hall : ingestAll (fs.hiding bad) service settings files ⟨[], []⟩
        (paths.filter (! bad ·)) s = Prod.map (Except.map (IntakeReport.without bad)) id
          (ingestAll fs service settings files ⟨[], []⟩ paths s) :=
      ingestAll_filter service unread ⟨[], []⟩ s
    unfold ingest
    rw [within.discover, (within.hiding bad).discover]
    dsimp only
    rw [hall]
    rfl
  · rw [ingest_eq_traced]
    obtain ⟨xs, r, -, hr, ht⟩ :=
      ingestAll_taken service fs settings files ⟨[], []⟩ paths (.start s)
    have hi : (ingest fs service.traced settings root files (.start s)).1 =
        (r.map (behind ⟨[], []⟩)).mapError .service := by
      unfold ingest
      rw [within.discover]
      exact hr
    rw [hi]
    cases r with
    | error e => exact ⟨e, rfl, ht.halts.2 e rfl⟩
    | ok report => exact ht.skips unread

/-- A source directory with two sources. -/
def twoSources : MemoryStore where
  files := [
    ("src/a.cs", Encoding.toUtf8 "class A {}"),
    ("src/b.cs", Encoding.toUtf8 "class B {}")]
  dirs := []

/-- Settings without default imports. -/
def addingNothing : Settings :=
  { Settings.standard with defaultImports := [] }

/-- A file system in memory in which a call fails on the second source. -/
def faulty (call : StoreCall) : FileSystem MemoryStore :=
  MemoryStore.fileSystem.withFaults [⟨call, ⟨"src/b.cs"⟩, none⟩]

theorem withinLimits_twoSources :
    WithinLimits (faulty .read) addingNothing ⟨"src"⟩ twoSources [⟨"src/a.cs"⟩, ⟨"src/b.cs"⟩] where
  listed := ⟨by decide +kernel, by decide +kernel⟩
  few := by decide
  small := ⟨[10, 10], .cons (by decide +kernel) (.cons (by decide +kernel) .nil), by decide⟩

theorem ingest_unreadable_second :
    ∃ report,
      (ingest (faulty .read) (Scripted.service ⟨[], [], []⟩) addingNothing ⟨"src"⟩ twoSources
        []).1 = .ok report ∧
      report.units.map ParsedUnit.path = [⟨"src/a.cs"⟩] ∧
      Skips (faulty .read) twoSources [⟨"src/a.cs"⟩, ⟨"src/b.cs"⟩] (· = ⟨"src/b.cs"⟩) report ∧
      (ingest ((faulty .read).hiding (· = ⟨"src/b.cs"⟩)) (Scripted.service ⟨[], [], []⟩)
        addingNothing ⟨"src"⟩ twoSources []).1 = .ok (report.without (· = ⟨"src/b.cs"⟩)) := by
  have unread : ∀ p ∈ [(⟨"src/a.cs"⟩ : Path), ⟨"src/b.cs"⟩],
      decide (p = ⟨"src/b.cs"⟩) = true → ∃ e, readUnit (faulty .read) p twoSources = .error e := by
    intro p _ hb
    have hs : (faulty .read).size ⟨"src/b.cs"⟩ twoSources = .ok 10 := by decide +kernel
    have hr : (faulty .read).read ⟨"src/b.cs"⟩ twoSources =
        .error (.permissionDenied "src/b.cs") := by
      decide +kernel
    rw [of_decide_eq_true hb]
    exact ⟨_, readUnit_of_read hs (by decide) hr⟩
  have h := ingest_unreadable (Scripted.service ⟨[], [], []⟩) [] withinLimits_twoSources unread
  have hp : (ingest (faulty .read) (Scripted.service ⟨[], [], []⟩) addingNothing ⟨"src"⟩
      twoSources []).1.toOption.map (·.units.map ParsedUnit.path) = some [⟨"src/a.cs"⟩] := by
    decide +kernel
  rcases hi : ingest (faulty .read) (Scripted.service ⟨[], [], []⟩) addingNothing ⟨"src"⟩
    twoSources [] with ⟨r, files, s⟩
  rw [hi] at h hp
  cases r with
  | error err => cases hp
  | ok report => exact ⟨report, rfl, Option.some.inj hp, h.2, congrArg Prod.fst h.1⟩

/-- One file that cannot be measured ends the intake of all, whatever the compiler is able to do. -/
theorem ingest_aborts_unmeasured :
    (faulty .size).list ⟨"src"⟩ sourceExtension true twoSources =
        .ok [⟨"src/a.cs"⟩, ⟨"src/b.cs"⟩] ∧
      (faulty .size).size ⟨"src/b.cs"⟩ twoSources = .error (.permissionDenied "src/b.cs") ∧
      ∃ e, (ingest (faulty .size) (Scripted.service ⟨[], [], []⟩) addingNothing ⟨"src"⟩
        twoSources []).1 = .error (.store e) := by
  have hl : (faulty .size).list ⟨"src"⟩ sourceExtension true twoSources =
      .ok [⟨"src/a.cs"⟩, ⟨"src/b.cs"⟩] := by
    decide +kernel
  have hs : (faulty .size).size ⟨"src/b.cs"⟩ twoSources =
      .error (.permissionDenied "src/b.cs") := by
    decide +kernel
  have listed : Listed (faulty .size) addingNothing ⟨"src"⟩ twoSources
      [⟨"src/a.cs"⟩, ⟨"src/b.cs"⟩] := ⟨by decide +kernel, hl⟩
  obtain ⟨e, he⟩ := ingest_unmeasured (Scripted.service ⟨[], [], []⟩) [] listed (by decide)
    (List.mem_cons_of_mem _ (List.mem_singleton_self _)) hs
  exact ⟨hl, hs, e, congrArg Prod.fst he⟩

end Intake
end PluginForge
