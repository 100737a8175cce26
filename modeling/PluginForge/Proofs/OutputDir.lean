/-
What a build does to the output directory of a file system in memory, step by step. Cleaning takes
every artifact out of it; after that only the artifacts of groups are written there, while logs and
directories leave every artifact as it is.
-/
import PluginForge.Proofs.Places
import PluginForge.Proofs.StoreChanges

namespace PluginForge

open MemoryStore

namespace Artifact

/-! ## Names of artifacts -/

/-- The name of a file that lies directly in a directory and is a library or holds debug symbols,
whatever the case of its extension. -/
def IsPlaced (dir : Path) (name : String) : Prop :=
  isListed (below (normalize dir)) libraryExtension false name = true ∨
    isListed (below (normalize dir)) symbolsExtension false name = true

/-- The extensions of artifacts. -/
def extensions : List String :=
  [libraryExtension, symbolsExtension]

theorem library_mem_extensions : libraryExtension ∈ extensions := by
  simp [extensions]

theorem symbols_mem_extensions : symbolsExtension ∈ extensions := by
  simp [extensions]

theorem mem_ofOutput {dir : Path} {key : String} {output : EmitOutput} {a : Path × Bytes}
    (h : a ∈ ofOutput dir key output) : ∃ ext ∈ extensions, a.1 = path dir key ext := by
  rw [ofOutput, List.mem_cons, List.mem_map] at h
  rcases h with rfl | ⟨symbols, _, rfl⟩
  · exact ⟨libraryExtension, library_mem_extensions, by simp only⟩
  · exact ⟨symbolsExtension, symbols_mem_extensions, by simp only⟩

theorem isFileName_of_mem_extensions (key : String) {ext : String} (h : ext ∈ extensions) :
    IsFileName (safeName key ++ "." ++ ext).toList (safeName key).toList ext.toList := by
  have he : ∀ ext ∈ extensions, ext.toList ≠ [] ∧ '.' ∉ ext.toList ∧
      (ext.toList.all fun c => IsSafeChar c) = true := by decide
  obtain ⟨hne, hd, hs⟩ := he ext h
  exact isFileName_safeName key hne hd fun c => .of_all hs

variable {dir : Path} (hd : EndsPlain dir.text.toList)

include hd

theorem isPlaced_path (key : String) {ext : String} (h : ext ∈ extensions) :
    IsPlaced dir (normalize (path dir key ext)) := by
  have hf := isFileName_of_mem_extensions key h
  rcases List.mem_cons.1 h with rfl | h
  · exact .inl ((isListed_join hd hf (by decide)).2 (by decide))
  · rw [List.mem_singleton.1 h] at hf ⊢
    exact .inr ((isListed_join hd hf (by decide)).2 (by decide))

/-- Artifacts of groups with different safe names have different places, as have a group's library
and its debug symbols. -/
theorem path_inj {key key' ext ext' : String} (h : ext ∈ extensions) (h' : ext' ∈ extensions)
    (hp : normalize (path dir key ext) = normalize (path dir key' ext')) :
    safeName key = safeName key' ∧ ext = ext' := by
  have hl : ∀ ext ∈ extensions, ext.toList.length = 3 := by decide
  have hp := congrArg String.toList hp
  rw [path, path, toList_normalize_join hd (isFileName_of_mem_extensions key h),
    toList_normalize_join hd (isFileName_of_mem_extensions key' h')] at hp
  have hs := (List.cons.inj (List.append_cancel_left hp)).2
  simp only [String.toList_append, List.append_assoc] at hs
  obtain ⟨hk, he⟩ := List.append_inj' hs (by simp [hl ext h, hl ext' h'])
  exact ⟨String.toList_inj.1 hk, String.toList_inj.1 (List.append_cancel_left he)⟩

omit hd in
/-- The log of a group is not an artifact, wherever it lies. -/
theorem not_isPlaced_log {logs : Path} (hl : EndsPlain logs.text.toList) (key : String)
    (t : TimeStamp) : ¬ IsPlaced dir (normalize (logs.join (logFileName key t))) := by
  have hf := isFileName_logFileName key t
  rintro (h | h)
  · exact absurd ((hasExtension_join hl hf (by decide)).1 (hasExtension_of_isListed h)) (by decide)
  · exact absurd ((hasExtension_join hl hf (by decide)).1 (hasExtension_of_isListed h)) (by decide)

end Artifact

/-! ## What is written -/

/-- The names under which written files are kept, with their bytes. -/
def named (written : List (Path × Bytes)) : List (String × Bytes) :=
  written.map fun a => (normalize a.1, a.2)

/-- Of the artifacts in a directory, just these were written, one after the other. -/
structure Writes (dir : Path) (m m' : MemoryStore) (written : List (Path × Bytes)) : Prop where
  normal : m'.Normal
  find : ∀ name, Artifact.IsPlaced dir name →
    find? name m'.files = (find? name (named written).reverse).or (find? name m.files)

theorem find?_append (name : String) (files files' : List (String × Bytes)) :
    find? name (files ++ files') = (find? name files).or (find? name files') := by
  rw [find?, List.find?_append, Option.map_or]
  rfl

namespace Writes

variable {dir : Path} {m m' m'' : MemoryStore} {written written' : List (Path × Bytes)}

theorem of_find (h : m'.Normal)
    (hf : ∀ name, Artifact.IsPlaced dir name → find? name m'.files = find? name m.files) :
    Writes dir m m' [] where
  normal := h
  find name hn := by
    rw [hf name hn]
    rfl

theorem of_files (h : m.Normal) (hf : m'.files = m.files) : Writes dir m m' [] :=
  .of_find (h.of_files hf) fun _ _ => by rw [hf]

theorem refl (h : m.Normal) : Writes dir m m [] :=
  .of_files h rfl

theorem trans (h : Writes dir m m' written) (h' : Writes dir m' m'' written') :
    Writes dir m m'' (written ++ written') where
  normal := h'.normal
  find name hn := by
    have hr : (named (written ++ written')).reverse =
        (named written').reverse ++ (named written).reverse := by
      simp [named]
    rw [h'.find name hn, h.find name hn, hr, find?_append, Option.or_assoc]

theorem makeDir (h : m.Normal) (p : Path) : Writes dir m (fileSystem.makeDir p m).2 [] :=
  .of_files h (makeDir_files p m)

theorem write {p : Path} {content : Bytes} (h : m.Normal)
    (hw : (fileSystem.write p content m).1 = .ok ()) :
    Writes dir m (fileSystem.write p content m).2 [(p, content)] where
  normal := h.write p content
  find name _ := by
    have hf : (fileSystem.write p content m).2.files = insert (normalize p) content m.files :=
      write_ok hw
    rw [hf, find?_insert]
    by_cases hn : normalize p = name <;> simp [named, find?, hn]

/-- What is written under a name that is not an artifact's leaves the artifacts as they are. -/
theorem write_other {p : Path} (h : m.Normal) (content : Bytes)
    (hp : ¬ Artifact.IsPlaced dir (normalize p)) :
    Writes dir m (fileSystem.write p content m).2 [] := by
  refine .of_find (h.write p content) fun name hn => ?_
  cases hw : (m.write p content).1 with
  | error err =>
    have hm : (fileSystem.write p content m).2 = m := write_error hw
    rw [hm]
  | ok u =>
    have hf : (fileSystem.write p content m).2.files = insert (normalize p) content m.files :=
      write_ok hw
    rw [hf, find?_insert, if_neg]
    rintro rfl
    exact hp hn

end Writes

namespace Artifact

variable {dir : Path} {m m' : MemoryStore}

theorem writeAll_writes {artifacts : List (Path × Bytes)} (h : m.Normal)
    (hw : writeAll fileSystem artifacts m = (.ok (), m')) : Writes dir m m' artifacts := by
  induction artifacts generalizing m with
  | nil =>
    cases hw
    exact .refl h
  | cons a rest ih =>
    obtain ⟨p, bytes⟩ := a
    have hp := @Writes.write dir m p bytes h
    unfold writeAll at hw
    generalize fileSystem.write p bytes m = r at hw hp
    obtain ⟨r, m''⟩ := r
    cases r with
    | error err => cases hw
    | ok u => exact (hp rfl).trans (ih (hp rfl).normal hw)

/-- The artifacts of a group are written as they are listed. -/
theorem write_writes {out : Path} {key : String} {output : EmitOutput} {paths : List Path}
    (h : m.Normal) (hw : write fileSystem out key output m = (.ok paths, m')) :
    Writes dir m m' (ofOutput out key output) ∧ paths = (ofOutput out key output).map Prod.fst := by
  have hd := @Writes.makeDir dir m h out
  unfold write at hw
  generalize fileSystem.makeDir out m = r at hw hd
  obtain ⟨r, m₁⟩ := r
  cases r with
  | error err => cases hw
  | ok u =>
    dsimp only at hw hd
    rcases hr : writeAll fileSystem (ofOutput out key output) m₁ with ⟨r, m₂⟩
    rw [hr] at hw
    cases r with
    | error err => cases hw
    | ok u =>
      cases hw
      exact ⟨hd.trans (writeAll_writes hd.normal hr), rfl⟩

/-! ## Cleaning -/

/-- Cleaning takes every artifact out of a directory, whatever the case of its extension. -/
theorem clean_find? {dir : Path} {m : MemoryStore} (h : m.Normal) :
    (clean fileSystem dir m).Normal ∧
      ∀ name, IsPlaced dir name → find? name (clean fileSystem dir m).files = none := by
  unfold clean
  by_cases hd : fileSystem.isDir dir m = true
  · rw [if_pos hd]
    have h₁ := h.removeListed dir libraryExtension
    refine ⟨h₁.removeListed dir symbolsExtension, fun name hn => ?_⟩
    dsimp only
    rw [h₁.find?_removeListed, h.find?_removeListed]
    rcases hn with hn | hn
    · simp [hn]
    · simp [hn]
  · rw [if_neg hd]
    refine ⟨h.makeDir dir, fun name hn => ?_⟩
    have hf : (fileSystem.makeDir dir m).2.files = m.files := makeDir_files dir m
    rw [hf]
    by_contra hm
    exact hd (hn.elim (isDirName_of_isListed · hm) (isDirName_of_isListed · hm))

end Artifact

/-! ## Logs -/

namespace FailureLog

variable {dir logs : Path} {m : MemoryStore}

/-- Writing the log of a group leaves the artifacts as they are. -/
theorem write_writes (hl : EndsPlain logs.text.toList) (h : m.Normal) (style : Report.LogStyle)
    (key name : String) (ds : List Diagnostic) (t : TimeStamp) :
    Writes dir m (write fileSystem style logs key name ds t m).2 [] := by
  have hd := @Writes.makeDir dir m h logs
  unfold write
  generalize fileSystem.makeDir logs m = r at hd ⊢
  obtain ⟨r, m₁⟩ := r
  cases r with
  | error err => exact hd
  | ok u =>
    have hw := hd.trans (.write_other hd.normal
      (Encoding.toUtf8 (Report.renderLog style name ds t)) (Artifact.not_isPlaced_log hl key t))
    dsimp only at hw ⊢
    generalize fileSystem.write (logs.join (logFileName key t))
      (Encoding.toUtf8 (Report.renderLog style name ds t)) m₁ = r at hw ⊢
    obtain ⟨r, m₂⟩ := r
    cases r <;> exact hw

/-- Clearing the logs leaves the artifacts as they are. -/
theorem clear_writes (logs : Path) (h : m.Normal) :
    Writes dir m (clear fileSystem logs m).2 [] := by
  unfold clear
  split
  · refine .of_find (h.removeListed logs logExtension) fun name hn => ?_
    rw [h.find?_removeListed, if_neg]
    intro hl
    have hl := hasExtension_of_isListed hl
    rcases hn with hn | hn
    · exact absurd (Path.hasExtension_unique (by decide) (by decide) hl
        (hasExtension_of_isListed hn)) (by decide)
    · exact absurd (Path.hasExtension_unique (by decide) (by decide) hl
        (hasExtension_of_isListed hn)) (by decide)
  · exact .refl h

end FailureLog

/-! ## References and sources -/

/-- Making directories leaves all files as they are. -/
theorem MemoryStore.files_of_makesDirs {m m' : MemoryStore} (h : fileSystem.MakesDirs m m') :
    m'.files = m.files := by
  obtain ⟨changes, did, none⟩ := h
  induction did with
  | nil => rfl
  | @cons m m₁ m' c changes first _ ih =>
    obtain ⟨own, others⟩ := List.forall_mem_cons.1 none
    refine (ih others).trans ?_
    cases first with
    | write | remove => cases own
    | @makeDir p m r m₁ hm =>
      obtain rfl : (m.makeDir p).2 = m₁ := congrArg Prod.snd hm
      exact makeDir_files p m

namespace Reference

variable (settings : Settings) (roots : ReferenceRoots)

/-- Looking for candidates leaves all files as they are. -/
theorem candidates_files (m : MemoryStore) :
    (candidates fileSystem settings roots m).2.files = m.files :=
  files_of_makesDirs (candidates_makesDirs settings roots m)

/-- Looking for references leaves all files as they are. -/
theorem getOrResolve_files (kept : Option (List Path)) (m : MemoryStore) :
    (getOrResolve fileSystem settings roots kept m).2.2.files = m.files :=
  files_of_makesDirs (getOrResolve_makesDirs settings roots kept m)

end Reference

/-- Taking in sources leaves all files as they are. -/
theorem Intake.ingest_memory_files {σ ρ : Type} (service : CompileService σ ρ) (settings : Settings)
    (root : Path) (m : MemoryStore) (s : σ) :
    (ingest fileSystem service settings root m s).2.1.files = m.files :=
  files_of_makesDirs (ingest_makesDirs service settings root m s)

end PluginForge
