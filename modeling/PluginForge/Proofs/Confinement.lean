/-
What a build may change in a file system in memory. The artifacts of groups and their logs lie
directly in the output and in the log directory of the workspace, whatever the groups are called,
and only such files are cleared. So every other file is the same after a build as before it, however
the build ends, and no directory is taken away.
-/
import PluginForge.Proofs.Leftovers

namespace PluginForge

open MemoryStore

variable {σ ρ : Type}

/-! ## Products -/

/-- A file of this name lies directly in a directory and has an extension, in any case of letters.
-/
def MemoryStore.LiesIn (dir : Path) (extension name : String) : Prop :=
  ∃ file, name.toList = (normalize dir).toList ++ '/' :: file ∧ '/' ∉ file ∧
    (Path.mk name).hasExtension extension = true

theorem MemoryStore.isListed_iff_liesIn {dir : Path} (h : EndsPlain dir.text.toList)
    {extension name : String} :
    isListed (below (normalize dir)) extension false name = true ↔ LiesIn dir extension name := by
  have hb : below (normalize dir) = (normalize dir).toList ++ ['/'] := by
    rw [below_normalize h, normalize_of_endsPlain h]
  have hname (file : List Char) : Chars.after? (below (normalize dir)) name.toList = some file ↔
      name.toList = (normalize dir).toList ++ '/' :: file := by
    rw [Chars.after?_eq_some_iff, hb, List.append_assoc, List.singleton_append]
  unfold isListed
  constructor
  · intro hl
    split at hl
    · rename_i file ha
      obtain ⟨hf, hx⟩ := Bool.and_eq_true_iff.1 hl
      exact ⟨file, (hname file).1 ha, by simpa using hf, hx⟩
    · cases hl
  · rintro ⟨file, hn, hf, hx⟩
    rw [(hname file).2 hn]
    simpa [hx] using hf

/-- The names of the files that builds make: artifacts in the output directory and logs in the log
directory. -/
def Workspace.IsProduct (w : Workspace) (name : String) : Prop :=
  (∃ ext ∈ Artifact.extensions, LiesIn w.outputDir ext name) ∨ LiesIn w.logsDir logExtension name

namespace Workspace

variable {w : Workspace} {name : String}

theorem isProduct_iff : w.IsProduct name ↔ Artifact.IsPlaced w.outputDir name ∨
    isListed (below (normalize w.logsDir)) logExtension false name = true := by
  simp only [IsProduct, Artifact.IsPlaced, Artifact.extensions,
    isListed_iff_liesIn w.endsPlain_outputDir, isListed_iff_liesIn w.endsPlain_logsDir,
    List.mem_cons, List.not_mem_nil, or_false, exists_eq_or_imp, exists_eq_left]

instance : Decidable (w.IsProduct name) :=
  decidable_of_iff ((_ ∨ _) ∨ _) isProduct_iff.symm

theorem IsProduct.of_isPlaced (h : Artifact.IsPlaced w.outputDir name) : w.IsProduct name :=
  isProduct_iff.2 (.inl h)

theorem IsProduct.artifact {key ext : String} (h : ext ∈ Artifact.extensions) :
    w.IsProduct (normalize (Artifact.path w.outputDir key ext)) :=
  .of_isPlaced (Artifact.isPlaced_path w.endsPlain_outputDir key h)

theorem liesIn_log (w : Workspace) (key : String) (t : TimeStamp) :
    LiesIn w.logsDir logExtension (normalize (w.logsDir.join (logFileName key t))) :=
  (isListed_iff_liesIn w.endsPlain_logsDir).1
    ((isListed_join w.endsPlain_logsDir (isFileName_logFileName key t) (by decide)).2 rfl)

theorem IsProduct.log (key : String) (t : TimeStamp) :
    w.IsProduct (normalize (w.logsDir.join (logFileName key t))) :=
  .inr (w.liesIn_log key t)

end Workspace

/-! ## Changes within some names -/

namespace MemoryStore

/-- From one state to another, no file is changed, made or removed but those whose names fulfil `P`,
and no directory is taken away. -/
structure Confined (P : String → Prop) (m m' : MemoryStore) : Prop where
  normal : m.Normal → m'.Normal
  find : ∀ name, ¬ P name → find? name m'.files = find? name m.files
  dirs : m.dirs ⊆ m'.dirs

theorem subset_makeDir_dirs (p : Path) (m : MemoryStore) : m.dirs ⊆ (makeDir p m).2.dirs := by
  unfold makeDir
  split
  · exact List.Subset.refl _
  · split
    · exact List.Subset.refl _
    · exact List.subset_cons_self _ _

namespace Confined

variable {P : String → Prop} {m m' m'' : MemoryStore}

theorem refl : Confined P m m :=
  ⟨id, fun _ _ => rfl, List.Subset.refl _⟩

theorem trans (h : Confined P m m') (h' : Confined P m' m'') : Confined P m m'' where
  normal hm := h'.normal (h.normal hm)
  find name hn := (h'.find name hn).trans (h.find name hn)
  dirs := List.Subset.trans h.dirs h'.dirs

theorem mono {Q : String → Prop} (h : Confined P m m') (hpq : ∀ name, P name → Q name) :
    Confined Q m m' where
  normal := h.normal
  find name hn := h.find name fun hp => hn (hpq name hp)
  dirs := h.dirs

theorem makeDir (p : Path) (m : MemoryStore) : Confined P m (m.makeDir p).2 where
  normal hm := hm.makeDir p
  find name _ := by rw [makeDir_files]
  dirs := subset_makeDir_dirs p m

theorem remove {p : Path} (hp : P (normalize p)) : Confined P m (m.remove p).2 where
  normal hm := hm.remove p
  find name hn := by
    rw [remove_files, find?_erase, if_neg]
    rintro rfl
    exact hn hp
  dirs := by rw [remove_dirs]; exact List.Subset.refl _

theorem write {p : Path} {content : Bytes} (hp : P (normalize p)) :
    Confined P m (m.write p content).2 where
  normal hm := hm.write p content
  find name hn := by
    cases hw : (m.write p content).1 with
    | error err => rw [write_error hw]
    | ok u =>
      rw [write_ok hw, find?_insert, if_neg]
      rintro rfl
      exact hn hp
  dirs := by rw [write_dirs]; exact List.Subset.refl _

theorem removeAll {paths : List Path} (hp : ∀ p ∈ paths, P (normalize p)) :
    Confined P m (fileSystem.removeAll paths m).2 := by
  induction paths generalizing m with
  | nil => exact refl
  | cons p rest ih =>
    obtain ⟨first, others⟩ := List.forall_mem_cons.1 hp
    rw [removeAll_cons]
    exact (remove first).trans (ih others)

theorem removeListed {dir : Path} {ext : String} (hm : m.Normal)
    (hp : ∀ name, isListed (below (normalize dir)) ext false name = true → P name) :
    Confined P m (fileSystem.removeListed dir ext m).2 := by
  unfold FileSystem.removeListed
  cases hl : fileSystem.list dir ext false m with
  | error err => exact refl
  | ok paths =>
    refine removeAll fun p hm' => hp _ ?_
    exact ((hm.mem_map_normalize_iff hl).1 (List.mem_map_of_mem hm')).1

end Confined
end MemoryStore

/-- A call that changes no file but those whose names fulfil `P`. -/
def StoreChange.Within (P : String → Prop) : StoreChange → Prop
  | .write p _ _ | .remove p _ => P (normalize p)
  | .makeDir .. => True

/-- What is done on a file system in memory is confined to where its calls are. -/
theorem MemoryStore.Confined.of_did {P : String → Prop} {m m' : MemoryStore}
    {changes : List StoreChange} (h : fileSystem.Did m changes m')
    (within : ∀ c ∈ changes, c.Within P) : Confined P m m' := by
  induction h with
  | nil => exact .refl
  | @cons m m₁ m' c changes first _ ih =>
    obtain ⟨hc, others⟩ := List.forall_mem_cons.1 within
    refine Confined.trans ?_ (ih others)
    cases first with
    | @write p content m r m₁ hw =>
      obtain rfl : (m.write p content).2 = m₁ := congrArg Prod.snd hw
      exact .write hc
    | @remove p m r m₁ hr =>
      obtain rfl : (m.remove p).2 = m₁ := congrArg Prod.snd hr
      exact .remove hc
    | @makeDir p m r m₁ hd =>
      obtain rfl : (m.makeDir p).2 = m₁ := congrArg Prod.snd hd
      exact .makeDir p m

theorem MemoryStore.Confined.of_makesDirs {P : String → Prop} {m m' : MemoryStore}
    (h : fileSystem.MakesDirs m m') : Confined P m m' := by
  obtain ⟨changes, did, none⟩ := h
  refine .of_did did fun c hc => ?_
  cases c with
  | write | remove => cases none _ hc
  | makeDir => trivial

theorem MemoryStore.Normal.of_did {m m' : MemoryStore} {changes : List StoreChange}
    (h : fileSystem.Did m changes m') (hm : m.Normal) : m'.Normal := by
  refine (Confined.of_did (P := fun _ => True) h fun c _ => ?_).normal hm
  cases c <;> trivial

/-! ## The parts of a build -/

theorem GroupOutcome.Made.within {w : Workspace} {o : GroupOutcome} {made : List StoreChange}
    (h : o.Made w.outputDir w.logsDir made) : ∀ c ∈ made, c.Within w.IsProduct := by
  have artifact {output : EmitOutput} {a : Path × Bytes}
      (ha : a ∈ Artifact.ofOutput w.outputDir o.key output) : w.IsProduct (normalize a.1) := by
    obtain ⟨ext, hx, hp⟩ := Artifact.mem_ofOutput ha
    rw [hp]
    exact .artifact hx
  cases h with
  | artifacts =>
    refine List.forall_mem_cons.2 ⟨trivial, fun c hc => ?_⟩
    obtain ⟨a, ha, rfl⟩ := List.mem_map.1 hc
    exact artifact ha
  | noDir => exact List.forall_mem_singleton.2 trivial
  | @cut output xs a ys err _ _ _ split =>
    have part : ∀ x ∈ xs ++ [a], x ∈ Artifact.ofOutput w.outputDir o.key output := by
      intro x hx
      rw [split, ← List.singleton_append, ← List.append_assoc]
      exact List.mem_append_left ys hx
    obtain ⟨first, last⟩ := List.forall_mem_append.1 part
    refine List.forall_mem_cons.2 ⟨trivial, List.forall_mem_append.2 ⟨fun c hc => ?_,
      List.forall_mem_singleton.2 (artifact (last a (List.mem_singleton_self a)))⟩⟩
    obtain ⟨x, hx, rfl⟩ := List.mem_map.1 hc
    exact artifact (first x hx)
  | @log t changes _ _ only =>
    intro c hc
    obtain ⟨kept, wrote⟩ := only c hc
    cases c with
    | write p content r =>
      rw [StoreChange.Within, wrote p content r rfl]
      exact .log o.key t
    | remove => cases kept
    | makeDir => trivial

theorem Artifact.clean_confined {w : Workspace} {m : MemoryStore} (h : m.Normal) :
    Confined w.IsProduct m (clean fileSystem w.outputDir m) := by
  unfold clean
  split
  · have library : Confined w.IsProduct m
        (fileSystem.removeListed w.outputDir libraryExtension m).2 :=
      .removeListed h fun _ hn => .of_isPlaced (.inl hn)
    exact library.trans (.removeListed (library.normal h) fun _ hn => .of_isPlaced (.inr hn))
  · exact .makeDir w.outputDir m

theorem FailureLog.clear_confined {w : Workspace} {m : MemoryStore} (h : m.Normal) :
    Confined (LiesIn w.logsDir logExtension) m (clear fileSystem w.logsDir m).2 := by
  unfold clear
  split
  · exact .removeListed h fun _ hn => (isListed_iff_liesIn w.endsPlain_logsDir).1 hn
  · exact .refl

/-! ## Builds -/

namespace Engine

section

variable {e : Engine MemoryStore σ ρ} (he : e.store = MemoryStore.fileSystem)
  {s s' : EngineState MemoryStore σ ρ}

include he

theorem Builds.confined {references : List Path} {clock : Nat → TimeStamp} {index : Nat}
    {groups : List CompilationGroup} {outcomes : List GroupOutcome} {stop : Option ServiceError}
    (h : e.Builds references clock index groups s outcomes stop s') :
    Confined e.workspace.IsProduct s.files s'.files := by
  obtain ⟨made, outcome, did⟩ := h.made
  rw [he] at did
  refine .of_did did fun c hc => ?_
  obtain ⟨m, hm, hc⟩ := List.mem_flatten.1 hc
  obtain ⟨o, -, own⟩ := (exists_of_forall₂ outcome).2 m hm
  exact own.within c hc

theorem intakeFrom_confined {root : Path} {r : Except IntakeError IntakeReport}
    {files : MemoryStore} {service : σ} (hm : s.files.Normal)
    (h : e.intakeFrom root s = (r, files, service)) :
    Confined e.workspace.IsProduct s.files files := by
  have taken := @Intake.ingest_makesDirs _ fileSystem σ ρ e.service e.settings root
    (Artifact.clean fileSystem e.workspace.outputDir s.files) s.service
  have same : (e.intakeFrom root s).2.1 = files := congrArg (fun p => p.2.1) h
  rw [intakeFrom, he] at same
  exact (Artifact.clean_confined hm).trans (same ▸ .of_makesDirs taken)

theorem takeReferences_confined {P : String → Prop} {r : Except ReferenceError (List Path)}
    (h : e.takeReferences s = (r, s')) : Confined P s.files s'.files := by
  have taken := @Reference.getOrResolve_makesDirs _ fileSystem e.settings e.roots s.references s.files
  have same : (e.takeReferences s).2.files = s'.files := congrArg (fun p => p.2.files) h
  rw [takeReferences, he] at same
  exact same ▸ .of_makesDirs taken

theorem Passes.confined {root : Path} {clock : Nat → TimeStamp}
    {r : Except BuildFailure BuildReport} (hm : s.files.Normal) (h : e.Passes root clock s r s') :
    Confined e.workspace.IsProduct s.files s'.files := by
  cases h with
  | notTaken taken | noUnits taken => exact intakeFrom_confined he hm taken
  | noReferences taken _ refs =>
    exact (intakeFrom_confined he hm taken).trans (takeReferences_confined he refs)
  | stopped taken _ refs groups | reported taken _ refs groups =>
    exact ((intakeFrom_confined he hm taken).trans (takeReferences_confined he refs)).trans
      (groups.confined he)

theorem settleLogs_confined (hm : s.files.Normal) (r : Except BuildFailure BuildReport) :
    Confined e.workspace.IsProduct s.files (e.settleLogs r s).files := by
  cases r with
  | error err => exact .refl
  | ok report =>
    unfold settleLogs
    dsimp only
    split
    · rw [he]
      exact (FailureLog.clear_confined hm).mono fun _ => .inr
    · exact .refl

/-- A build changes nothing but its products. -/
theorem buildDir_confined (root : Path) (clock : Nat → TimeStamp) (hm : s.files.Normal) :
    Confined e.workspace.IsProduct s.files (e.buildDir root clock s).2.files := by
  by_cases on : e.settings.enabled = true
  · obtain ⟨s', passes, last⟩ := @buildDir_passes _ _ _ e root clock s on
    have cycle := passes.confined he hm
    rw [last]
    exact cycle.trans (settleLogs_confined he (cycle.normal hm) _)
  · rw [buildDir, if_neg on]
    exact .refl

/-- However a build over a file system in memory ends, every file that is neither an artifact
directly in the output directory nor a log directly in the log directory is there after it if and
only if it was there before, with the same content, and every directory that was made is still
there. -/
theorem buildDir_spares (hs : s.files.Reachable) (root : Path) (clock : Nat → TimeStamp) :
    (∀ p : Path, ¬ e.workspace.IsProduct (normalize p) →
      e.store.isFile p (e.buildDir root clock s).2.files = e.store.isFile p s.files ∧
      e.store.read p (e.buildDir root clock s).2.files = e.store.read p s.files) ∧
    ∀ dir ∈ s.files.dirs, dir ∈ (e.buildDir root clock s).2.files.dirs := by
  have confined := buildDir_confined he root clock hs.normal
  refine ⟨fun p hp => ?_, confined.dirs⟩
  have same := confined.find (normalize p) hp
  rw [he]
  refine ⟨Bool.eq_iff_iff.2 ?_, ?_⟩
  · change contains _ _ = true ↔ contains _ _ = true
    rw [contains_iff, contains_iff, same]
  · change MemoryStore.read p _ = MemoryStore.read p _
    simp only [MemoryStore.read, same]

end

/-- A workspace with one plugin, a library of an earlier build, and files that are almost products:
a library below the output directory and one among the logs. -/
def nearProducts : MemoryStore :=
  .withFiles [
    (⟨"w/assemblies/a.dll"⟩, standInLibrary),
    (⟨"w/compiled output/Old.DLL"⟩, [0]),
    (⟨"w/compiled output/kept/It.dll"⟩, [1]),
    (⟨"w/compile logs/It.dll"⟩, [2]),
    (⟨"w/source/a.cs"⟩, Encoding.toUtf8 "namespace It { }")]

theorem buildDir_spares_near_products :
    (∀ p ∈ [Path.mk "w/compiled output/kept/It.dll", ⟨"w/compile logs/It.dll"⟩],
      ¬ inMemory.workspace.IsProduct (normalize p) ∧
      inMemory.store.isFile p (inMemory.buildDir ⟨"w/source"⟩ (fun _ => newYear)
        (.start nearProducts [])).2.files = true) ∧
    inMemory.workspace.IsProduct "w/compiled output/Old.DLL" ∧
    inMemory.store.isFile ⟨"w/compiled output/Old.DLL"⟩ (inMemory.buildDir ⟨"w/source"⟩
      (fun _ => newYear) (.start nearProducts [])).2.files = false := by
  have spared := (buildDir_spares (e := inMemory) (s := .start nearProducts []) rfl
    (reachable_withFiles _) ⟨"w/source"⟩ fun _ => newYear).1
  have others : ∀ p ∈ [Path.mk "w/compiled output/kept/It.dll", ⟨"w/compile logs/It.dll"⟩],
      ¬ inMemory.workspace.IsProduct (normalize p) ∧
        inMemory.store.isFile p nearProducts = true := by
    decide +kernel
  refine ⟨fun p hp => ?_, by decide +kernel, by decide +kernel⟩
  obtain ⟨other, there⟩ := others p hp
  exact ⟨other, (spared p other).1.trans there⟩

end Engine
end PluginForge
