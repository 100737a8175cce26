/-
Where the engine writes files. What it writes belongs to a group: an artifact directly in the output
directory, or a failure log directly in the log directory. The names of these files are made of the
group's key, which is the root of a namespace; whatever text the namespace is, the safe name of its
root holds nothing that could lead out of a directory. So no source that is compiled has the engine
write elsewhere.

What is written is followed call by call, from one group up to all that an engine is asked to do
(`FileSystem.WritesOnly`).
-/
import Mathlib.Logic.Relation
import PluginForge.Proofs.Collisions
import PluginForge.Proofs.Cycles
import PluginForge.Proofs.DiskStore
import PluginForge.Proofs.Leftovers
import PluginForge.Proofs.ScriptBatches

namespace PluginForge

open MemoryStore (EndsPlain)

variable {φ σ ρ : Type}

/-! ## Safe names -/

/-- The characters with a meaning in paths or patterns, both separators of paths among them. -/
def reservedChars : List Char :=
  ['<', '>', ':', '"', '/', '\\', '|', '?', '*']

theorem isSafeChar_iff {c : Char} :
    IsSafeChar c ↔ c ∉ reservedChars ∧ Chars.isControl c = false := by
  unfold IsSafeChar safeChar
  by_cases h : (c ∈ ['<', '>', ':', '"', '/', '\\', '|', '?', '*'] || Chars.isControl c) = true
  · rw [if_pos h]
    refine iff_of_false ?_ fun ⟨plain, control⟩ => ?_
    · rintro rfl
      revert h
      decide
    · rw [control, Bool.or_false, decide_eq_true_iff] at h
      exact plain h
  · rw [if_neg h]
    rw [Bool.not_eq_true, Bool.or_eq_false_iff, decide_eq_false_iff_not] at h
    exact iff_of_true rfl h

theorem safeName_safeName (name : String) : safeName (safeName name) = safeName name := by
  have kept : (safeName name).toList.map safeChar = (safeName name).toList :=
    (List.map_congr_left fun _ hc => isSafeChar_of_mem_safeName hc).trans (List.map_id' _)
  rw [safeName_of_trimmed (trimmed_safeName name), masked, kept, String.ofList_toList]

theorem dot_notMem_rootNamespace (name : String) : '.' ∉ (rootNamespace name).toList := by
  intro dot
  rw [rootNamespace_eq_orGlobal] at dot
  rcases mem_of_mem_orGlobal dot with dot | dot
  · revert dot
    decide
  · simpa using List.mem_takeWhile_imp dot

/-- A safe name has no dot that the name has not. -/
theorem dot_notMem_safeName {name : String} (h : '.' ∉ name.toList) :
    '.' ∉ (safeName name).toList := by
  intro dot
  rw [safeName_eq_orGlobal] at dot
  rcases mem_of_mem_orGlobal dot with dot | dot
  · revert dot
    decide
  · obtain ⟨c, hc, same⟩ := List.mem_map.1 dot
    unfold safeChar at same
    split at same
    · revert same
      decide
    · exact h (same ▸ hc)

/-- A name that can stand at the start of a file name, with an extension behind it. -/
structure IsStem (name : String) : Prop where
  nonempty : name ≠ ""
  trimmed : Chars.trim name.toList = name.toList
  noReserved : ∀ c ∈ name.toList, c ∉ reservedChars
  noControl : ∀ c ∈ name.toList, Chars.isControl c = false
  noDot : '.' ∉ name.toList

theorem isStem_safeName (name : String) : IsStem (safeName (rootNamespace name)) where
  nonempty empty := safeName_ne_nil (rootNamespace name) (by rw [empty]; rfl)
  trimmed := (trimmed_safeName _).trim_eq
  noReserved _ hc := (isSafeChar_iff.1 (isSafeChar_of_mem_safeName hc)).1
  noControl _ hc := (isSafeChar_iff.1 (isSafeChar_of_mem_safeName hc)).2
  noDot := dot_notMem_safeName (dot_notMem_rootNamespace name)

example : safeName (rootNamespace "\\a/..\\b/c") = "_a_" := by decide

/-! ## Files of groups -/

/-- A path lies directly in a directory, under this name. -/
def Path.IsChild (p dir : Path) (name : String) : Prop :=
  p.components = dir.components ++ [.name name.toList]

theorem Path.isChild_join {dir : Path} {name : String} {stem ext : List Char}
    (hd : EndsPlain dir.text.toList) (hf : IsFileName name.toList stem ext) :
    (dir.join name).IsChild dir name := by
  have head : name.toList.head? ≠ some '/' := fun hc =>
    (hf.plain _ (List.mem_of_mem_head? hc)).1 rfl
  have nonempty : dir.text.toList ≠ [] := by
    obtain ⟨t, c, ht, -⟩ := hd
    simp [ht]
  exact Path.components_append_name (MemoryStore.toList_join hd head) nonempty hf.isName

namespace Workspace

variable (w : Workspace) (key : String)

/-- The file of an artifact of a group: its library, or its debug symbols. -/
def IsArtifact (p : Path) : Prop :=
  p.IsChild w.outputDir (safeName key ++ ".dll") ∨ p.IsChild w.outputDir (safeName key ++ ".pdb")

/-- The file of the failure log that a group has at some time. -/
def IsLog (t : TimeStamp) (p : Path) : Prop :=
  p.IsChild w.logsDir (safeName key ++ "_" ++ t.compact ++ ".txt")

/-- A file of a group. -/
inductive IsGroupFile (p : Path) : Prop
  | artifact (h : w.IsArtifact key p)
  | log (t : TimeStamp) (h : w.IsLog key t p)

variable {w key}

theorem isArtifact_path {ext : String} (h : ext ∈ Artifact.extensions) :
    w.IsArtifact key (Artifact.path w.outputDir key ext) := by
  have child := Path.isChild_join w.endsPlain_outputDir
    (Artifact.isFileName_of_mem_extensions key h)
  have names : "." ++ libraryExtension = ".dll" ∧ "." ++ Artifact.symbolsExtension = ".pdb" := by
    decide
  unfold Artifact.path
  rw [String.append_assoc] at child ⊢
  rcases List.mem_cons.1 h with rfl | h
  · rw [names.1] at child ⊢
    exact .inl child
  · obtain rfl := List.mem_singleton.1 h
    rw [names.2] at child ⊢
    exact .inr child

theorem isLog_join (t : TimeStamp) : w.IsLog key t (w.logsDir.join (logFileName key t)) := by
  have child := Path.isChild_join w.endsPlain_logsDir (isFileName_logFileName key t)
  have name : logFileName key t = safeName key ++ "_" ++ t.compact ++ ".txt" := by
    have extension : "." ++ logExtension = ".txt" := by decide
    rw [logFileName, String.append_assoc, extension]
  rw [name] at child ⊢
  exact child

end Workspace

/-! ## What is written -/

/-- From one state to the other without a file being written at a path for which `P` is not true. -/
def FileSystem.WritesOnly (fs : FileSystem φ) (P : Path → Prop) (s s' : φ) : Prop :=
  ∃ changes, fs.Did s changes s' ∧ ∀ p content r, .write p content r ∈ changes → P p

namespace FileSystem.WritesOnly

variable {fs : FileSystem φ} {P Q : Path → Prop} {s s' s'' : φ}

theorem of_tidies (h : fs.Tidies s s') : fs.WritesOnly P s s' := by
  obtain ⟨changes, did, tidy⟩ := h
  exact ⟨changes, did, fun _ _ _ hw => nomatch tidy _ hw⟩

theorem refl : fs.WritesOnly P s s :=
  of_tidies .refl

theorem trans (h : fs.WritesOnly P s s') (h' : fs.WritesOnly P s' s'') : fs.WritesOnly P s s'' := by
  obtain ⟨changes, did, only⟩ := h
  obtain ⟨more, did', only'⟩ := h'
  exact ⟨changes ++ more, did.append did', fun p content r hw =>
    (List.mem_append.1 hw).elim (only p content r) (only' p content r)⟩

theorem mono (h : fs.WritesOnly P s s') (weaker : ∀ p, P p → Q p) : fs.WritesOnly Q s s' := by
  obtain ⟨changes, did, only⟩ := h
  exact ⟨changes, did, fun p content r hw => weaker p (only p content r hw)⟩

/-- On a file system with a record, the record tells what was written. -/
theorem of_recorded {s s' : FileSystem.Recorded φ} (h : fs.recorded.WritesOnly P s s') {p : Path}
    {content : Bytes} {r : Except StoreError Unit} (wrote : .write p content r ∈ s'.changes) :
    .write p content r ∈ s.changes ∨ P p := by
  obtain ⟨changes, did, only⟩ := h
  rw [did.recorded] at wrote
  exact (List.mem_append.1 wrote).imp_right (only p content r)

end FileSystem.WritesOnly

open FileSystem

section

variable (fs : FileSystem φ) (w : Workspace) (key : String)

theorem Artifact.write_writesOnly (output : EmitOutput) (files : φ) :
    fs.WritesOnly (w.IsArtifact key) files (write fs w.outputDir key output files).2 := by
  have own {a : Path × Bytes} (ha : a ∈ ofOutput w.outputDir key output) :
      w.IsArtifact key a.1 := by
    obtain ⟨ext, known, path⟩ := mem_ofOutput ha
    rw [path]
    exact Workspace.isArtifact_path known
  have listed {p : Path} {content : Bytes} {r : Except StoreError Unit} {as : List (Path × Bytes)}
      (sub : as ⊆ ofOutput w.outputDir key output)
      (wrote : .write p content r ∈ as.map StoreChange.written) : w.IsArtifact key p := by
    obtain ⟨a, ha, he⟩ := List.mem_map.1 wrote
    obtain ⟨rfl, -⟩ := StoreChange.write.inj he
    exact own (sub ha)
  cases h : write fs w.outputDir key output files with | mk r files' =>
  have did := write_did h
  cases r with
  | ok paths =>
    obtain ⟨-, did⟩ := did
    exact ⟨_, did, fun p content r wrote => listed (List.Subset.refl _)
      ((List.mem_cons.1 wrote).resolve_left nofun)⟩
  | error err =>
    rcases did with did | ⟨xs, a, ys, split, did⟩
    · exact ⟨_, did, fun p content r wrote => nomatch List.mem_singleton.1 wrote⟩
    · refine ⟨_, did, fun p content r wrote => ?_⟩
      rcases List.mem_append.1 ((List.mem_cons.1 wrote).resolve_left nofun) with wrote | wrote
      · exact listed (split ▸ List.subset_append_left xs (a :: ys)) wrote
      · obtain ⟨rfl, -⟩ := StoreChange.write.inj (List.mem_singleton.1 wrote)
        exact own (split ▸ List.mem_append_right xs List.mem_cons_self)

theorem FailureLog.write_writesOnly (style : Report.LogStyle) (name : String)
    (ds : List Diagnostic) (t : TimeStamp) (files : φ) :
    fs.WritesOnly (w.IsLog key t) files (write fs style w.logsDir key name ds t files).2 := by
  obtain ⟨changes, did, only⟩ := @write_did φ fs style w.logsDir key name ds t files
  refine ⟨changes, did, fun p content r wrote => ?_⟩
  rw [(only _ wrote).2 p content r rfl]
  exact Workspace.isLog_join t

end

/-! ## Builds -/

/-- A file of the group of some namespace. -/
def Workspace.IsEngineFile (w : Workspace) (p : Path) : Prop :=
  ∃ name, w.IsGroupFile (rootNamespace name) p

namespace Engine

variable {e : Engine φ σ ρ}

theorem writeArtifacts_writesOnly (output : EmitOutput) (o : GroupOutcome)
    (s : EngineState φ σ ρ) :
    e.store.WritesOnly (e.workspace.IsGroupFile o.key) s.files
      (e.writeArtifacts output o s).2.files := by
  have wrote := (Artifact.write_writesOnly e.store e.workspace o.key output s.files).mono
    fun _ => Workspace.IsGroupFile.artifact
  unfold writeArtifacts
  generalize Artifact.write e.store e.workspace.outputDir o.key output s.files = r at wrote ⊢
  obtain ⟨r, files⟩ := r
  cases r <;> exact wrote

theorem writeLog_writesOnly (name : String) (t : TimeStamp) (o : GroupOutcome)
    (s : EngineState φ σ ρ) :
    e.store.WritesOnly (e.workspace.IsGroupFile o.key) s.files (e.writeLog name t o s).2.files := by
  have wrote := (FailureLog.write_writesOnly e.store e.workspace o.key e.logStyle name
    o.diagnostics t s.files).mono fun _ => Workspace.IsGroupFile.log t
  unfold writeLog
  generalize FailureLog.write e.store e.logStyle e.workspace.logsDir o.key name o.diagnostics t
    s.files = r at wrote ⊢
  obtain ⟨r, files⟩ := r
  cases r <;> exact wrote

/-- For a group nothing is written but files of that group. -/
theorem buildGroup_writesOnly (references : List Path) (t : TimeStamp) (g : CompilationGroup)
    (s : EngineState φ σ ρ) :
    e.store.WritesOnly (e.workspace.IsGroupFile g.key) s.files
      (e.buildGroup references t g s).2.files := by
  have same : (e.compileGroup references g s).2.files = s.files := rfl
  unfold buildGroup
  generalize e.compileGroup references g s = r at same ⊢
  obtain ⟨r, s'⟩ := r
  rw [← same]
  cases r with
  | error err =>
    dsimp only
    split <;> exact .refl
  | ok c =>
    dsimp only
    split
    · exact writeArtifacts_writesOnly c.output (.ofCompile g c) s'
    · exact writeLog_writesOnly g.displayName t (.ofCompile g c) s'

variable {root : Path} {clock : Nat → TimeStamp}

theorem Builds.writesOnly {references : List Path} {index : Nat} {groups : List CompilationGroup}
    {s s' : EngineState φ σ ρ} {outcomes : List GroupOutcome} {stop : Option ServiceError}
    (h : e.Builds references clock index groups s outcomes stop s') {P : Path → Prop}
    (own : ∀ g ∈ groups, ∀ p, e.workspace.IsGroupFile g.key p → P p) :
    e.store.WritesOnly P s.files s'.files := by
  induction h with
  | done => exact .refl
  | @next index g rest s o s' outcomes stop s'' built _ ih =>
    obtain ⟨first, others⟩ := List.forall_mem_cons.1 own
    have wrote := (buildGroup_writesOnly references (clock index) g s).mono first
    rw [built] at wrote
    exact wrote.trans (ih others)
  | ended refused =>
    rw [files_of_refused refused]
    exact .refl

/-- A cycle writes no other files than those of groups. -/
theorem Passes.writesOnly {s s' : EngineState φ (Traced σ ρ) ρ}
    {r : Except BuildFailure BuildReport} (h : e.traced.Passes root clock s r s') :
    e.store.WritesOnly e.workspace.IsEngineFile s.files s'.files := by
  -- A group has a source, and the group's key is the root of what the compiler read in that.
  have groups {intake : IntakeReport} {files : φ} {service : Traced σ ρ}
      (taken : e.traced.intakeFrom root s = (.ok intake, files, service)) :
      ∀ g ∈ CompilationGroup.partition e.settings.pluginBaseType intake.units,
        ∀ p, e.workspace.IsGroupFile g.key p → e.workspace.IsEngineFile p := by
    intro g hg p own
    obtain ⟨paths, parses, -, -, units⟩ := Intake.ingest_taken e.service taken
    obtain ⟨u, hu⟩ := List.exists_mem_of_ne_nil _ (CompilationGroup.units_of_mem_partition hg).2
    obtain ⟨-, key⟩ := units.key_of_mem_partition hg hu
    exact ⟨u.tree.namespaceName, key ▸ own⟩
  cases h with
  | notTaken taken | noUnits taken _ => exact .of_tidies (intakeFrom_tidies taken)
  | noReferences taken _ refs =>
    exact .of_tidies ((intakeFrom_tidies taken).trans (takeReferences_tidies refs))
  | stopped taken _ refs built | reported taken _ refs built =>
    have quiet := (intakeFrom_tidies taken).trans (takeReferences_tidies refs)
    exact (WritesOnly.of_tidies quiet).trans (built.writesOnly (groups taken))

theorem clearLogs_tidies (s : EngineState φ σ ρ) :
    e.store.Tidies s.files (e.clearLogs s).2.files :=
  FailureLog.clear_tidies e.workspace.logsDir s.files

theorem settleLogs_tidies (r : Except BuildFailure BuildReport) (s : EngineState φ σ ρ) :
    e.store.Tidies s.files (e.settleLogs r s).files := by
  unfold settleLogs
  cases r with
  | error err => exact .refl
  | ok report =>
    dsimp only
    split
    · exact FailureLog.clear_tidies e.workspace.logsDir s.files
    · exact .refl

/-- A build writes no other files than those of groups. -/
theorem buildDir_writesOnly (root : Path) (clock : Nat → TimeStamp) (s : EngineState φ σ ρ) :
    e.store.WritesOnly e.workspace.IsEngineFile s.files (e.buildDir root clock s).2.files := by
  by_cases on : e.settings.enabled = true
  · obtain ⟨s', passes, -, files⟩ := @buildDir_passes_traced _ _ _ e root clock s on
    rw [files]
    exact passes.writesOnly.trans (.of_tidies (settleLogs_tidies (e := e.traced) _ s'))
  · rw [buildDir, if_neg on]
    exact .refl

/-! ## Everything an engine is asked to do -/

theorem recompile_makesDirs (name source : String) (imports : List String)
    (s : EngineState φ σ ρ) :
    e.store.MakesDirs s.files (e.recompile name source imports s).2.files :=
  e.precompile_makesDirs name source imports { s with scripts := s.scripts.erase name }

theorem precompileDir_makesDirs (dir : Path) (imports : List String) (s : EngineState φ σ ρ) :
    e.store.MakesDirs s.files (e.precompileDir dir imports s).2.files := by
  rw [precompileDir_snd]
  cases e.store.isDir dir s.files with
  | true => exact e.precompileFiles_makesDirs imports ⟨0, 0, 0⟩ (e.scriptFiles dir s.files) s
  | false => exact .makeDir rfl

theorem run_files (name : String) (context : Json) (limit : Nat) (s : EngineState φ σ ρ) :
    (e.run name context limit s).2.files = s.files := by
  unfold run
  split <;> rfl

theorem runScriptFile_makesDirs (p : Path) (context : Json) (limit : Nat) (s : EngineState φ σ ρ) :
    e.store.MakesDirs s.files (e.runScriptFile p context limit s).2.files := by
  unfold runScriptFile
  cases e.readScript p s.files with
  | error err => exact .refl
  | ok source =>
    have made := e.precompile_makesDirs (scriptName p) source [] s
    dsimp only
    generalize e.precompile (scriptName p) source [] s = r at made ⊢
    obtain ⟨r, s'⟩ := r
    cases r with
    | error err => exact made
    | ok status =>
      dsimp only
      rw [run_files]
      exact made

theorem cleanSources_tidies (s : EngineState φ σ ρ) :
    e.store.Tidies s.files (e.cleanSources s).2.files := by
  rw [cleanSources_snd]
  cases e.store.isDir e.workspace.sourceDir s.files with
  | true =>
    cases e.store.list e.workspace.sourceDir "" true s.files with
    | ok paths => exact .removeAll paths
    | error err => exact .refl
  | false => exact .of_makesDirs (.makeDir rfl)

end Engine

/-- A call of the engine, not a change of the files by someone else. -/
def EngineCall.IsOwn : EngineCall φ → Prop
  | .script (.change _) => False
  | _ => True

namespace Engine

variable {e : Engine φ σ ρ}

theorem carryOut_writesOnly (s : EngineState φ σ ρ) {call : EngineCall φ} (own : call.IsOwn) :
    e.store.WritesOnly e.workspace.IsEngineFile s.files (e.carryOut s call).files := by
  cases call with
  | build clock => exact buildDir_writesOnly e.workspace.sourceDir clock s
  | buildDir root clock => exact buildDir_writesOnly root clock s
  | script call =>
    refine .of_tidies (.of_makesDirs ?_)
    cases call with
    | precompile name source imports => exact e.precompile_makesDirs name source imports s
    | recompile name source imports => exact recompile_makesDirs name source imports s
    | precompileDir dir imports => exact precompileDir_makesDirs dir imports s
    | run name context limit =>
      change e.store.MakesDirs s.files (e.run name context limit s).2.files
      rw [run_files]
      exact .refl
    | clear name => exact .refl
    | change files => exact own.elim
  | runScriptFile p context limit =>
    exact .of_tidies (.of_makesDirs (runScriptFile_makesDirs p context limit s))
  | cleanSources => exact .of_tidies (cleanSources_tidies s)

/-- What may happen to an engine whose changes are recorded: it is asked for something, or others
change the files. -/
inductive Moves (e : Engine φ σ ρ) :
    EngineState (FileSystem.Recorded φ) σ ρ → EngineState (FileSystem.Recorded φ) σ ρ → Prop
  | call {s} (call : EngineCall (FileSystem.Recorded φ)) (own : call.IsOwn) :
      Moves e s (e.recorded.carryOut s call)
  | clearLogs {s} : Moves e s (e.recorded.clearLogs s).2
  | others {s} (files : φ) : Moves e s { s with files := { s.files with state := files } }

variable {s s' : EngineState (FileSystem.Recorded φ) σ ρ} {p : Path} {content : Bytes}
  {r : Except StoreError Unit}

theorem Moves.wrote (h : e.Moves s s') (wrote : .write p content r ∈ s'.files.changes) :
    .write p content r ∈ s.files.changes ∨ e.workspace.IsEngineFile p := by
  cases h with
  | call call own => exact (carryOut_writesOnly (e := e.recorded) s own).of_recorded wrote
  | clearLogs =>
    exact (WritesOnly.of_tidies (clearLogs_tidies (e := e.recorded) s)).of_recorded wrote
  | others files => exact .inl wrote

/-- Whatever happens, the engine writes no other files than those of groups. -/
theorem wrote_of_moves (h : Relation.ReflTransGen e.Moves s s')
    (wrote : .write p content r ∈ s'.files.changes) :
    .write p content r ∈ s.files.changes ∨ e.workspace.IsEngineFile p := by
  induction h with
  | refl => exact .inl wrote
  | tail _ last ih => exact (last.wrote wrote).elim ih .inr

/-- What is written for the group of a namespace lies directly in the output or the log directory,
as the library, the debug symbols or the log of the group, and its name begins with the safe name
of the group's key. That safe name is a trimmed text, not empty, without dots and without reserved
and control characters, and it is its own safe name, as every safe name is. Whatever sources an
engine is given to compile and whatever else it is asked to do, it writes no files but these, also
if others change the files meanwhile. -/
theorem writes_confined (e : Engine φ σ ρ) :
    (∀ name, IsStem (safeName (rootNamespace name))) ∧
    (∀ name, safeName (safeName name) = safeName name) ∧
    (∀ name output files p content r,
      .write p content r ∈ (Artifact.write e.store.recorded e.workspace.outputDir
        (rootNamespace name) output ⟨files, []⟩).2.changes →
      e.workspace.IsArtifact (rootNamespace name) p) ∧
    (∀ name title ds t files p content r,
      .write p content r ∈ (FailureLog.write e.store.recorded e.logStyle e.workspace.logsDir
        (rootNamespace name) title ds t ⟨files, []⟩).2.changes →
      e.workspace.IsLog (rootNamespace name) t p) ∧
    ∀ (s : EngineState φ σ ρ) s', Relation.ReflTransGen e.Moves s.recordStart s' →
      ∀ p content r, .write p content r ∈ s'.files.changes → e.workspace.IsEngineFile p := by
  refine ⟨isStem_safeName, safeName_safeName, fun name output files p content r wrote => ?artifact,
    fun name title ds t files p content r wrote => ?log,
    fun s s' moves p content r wrote => ?all⟩
  case artifact =>
    exact ((Artifact.write_writesOnly e.store.recorded e.workspace _ output _).of_recorded
      wrote).resolve_left List.not_mem_nil
  case log =>
    exact ((FailureLog.write_writesOnly e.store.recorded e.workspace _ e.logStyle title ds t
      _).of_recorded wrote).resolve_left List.not_mem_nil
  case all => exact (wrote_of_moves moves wrote).resolve_left List.not_mem_nil

end Engine
end PluginForge
