/-
Whether the files of different groups can get in each other's way. The key of a group is trimmed and
not empty, so its safe name is the key with some characters replaced by underscores (`masked`):
neither trimming nor the stand-in for an empty name brings two keys together, the replacement alone
may do so. The names of two groups' files are apart just if their masked keys are.
-/
import PluginForge.Proofs.Accounting
import PluginForge.Proofs.OutputDir

namespace PluginForge

/-! ## Safe names of keys -/

/-- A name with each character that cannot stand in a file name replaced. -/
def masked (name : String) : String :=
  .ofList (name.toList.map safeChar)

theorem isBlank_safeChar (c : Char) (h : Chars.isBlank c = false) :
    Chars.isBlank (safeChar c) = false := by
  unfold safeChar
  split
  · decide
  · exact h

theorem safeName_of_trimmed {name : String} (h : Chars.Trimmed name.toList) :
    safeName name = masked name := by
  have hm : Chars.Trimmed (name.toList.map safeChar) := h.map isBlank_safeChar
  unfold safeName masked
  rw [hm.trim_eq]
  exact if_neg (mt List.isEmpty_iff.1 hm.ne_nil)

theorem trimmed_rootNamespace (name : String) : Chars.Trimmed (rootNamespace name).toList :=
  trimmed_orGlobal (name.toList.takeWhile (· ≠ '.'))

/-! ## Names of files -/

/-- A name is that of one stem with one extension. -/
theorem IsFileName.inj {s stem ext stem' ext' : List Char} (h : IsFileName s stem ext)
    (h' : IsFileName s stem' ext') : stem = stem' ∧ ext = ext' := by
  have inside {zs : List Char} {c : Char} {a b : List Char} (ha : '.' ∉ a)
      (he : '.' :: a = c :: zs ++ '.' :: b) : False := by
    obtain ⟨-, rfl⟩ := List.cons.inj he
    exact ha (List.mem_append_right zs List.mem_cons_self)
  rcases List.append_eq_append_iff.1 (h.eq.symm.trans h'.eq) with ⟨zs, hs, he⟩ | ⟨zs, hs, he⟩
  · cases zs with
    | nil => exact ⟨by rw [hs, List.append_nil], (List.cons.inj he).2⟩
    | cons c zs => exact (inside h.noDot he).elim
  · cases zs with
    | nil => exact ⟨by rw [hs, List.append_nil], (List.cons.inj he).2.symm⟩
    | cons c zs => exact (inside h'.noDot he).elim

theorem Artifact.name_inj {key key' ext ext' : String} (h : ext ∈ extensions)
    (h' : ext' ∈ extensions) (he : safeName key ++ "." ++ ext = safeName key' ++ "." ++ ext') :
    safeName key = safeName key' ∧ ext = ext' := by
  have own := isFileName_of_mem_extensions key' h'
  rw [← he] at own
  obtain ⟨hk, he⟩ := (isFileName_of_mem_extensions key h).inj own
  exact ⟨String.toList_inj.1 hk, String.toList_inj.1 he⟩

theorem Artifact.name_ne_log (key key' : String) {ext : String} (h : ext ∈ extensions)
    (t : TimeStamp) : safeName key ++ "." ++ ext ≠ logFileName key' t := by
  intro he
  have own := isFileName_of_mem_extensions key h
  rw [he] at own
  have apart : ∀ ext ∈ extensions, ext.toList ≠ logExtension.toList := by decide
  exact apart ext h (own.inj (isFileName_logFileName key' t)).2

theorem logFileName_inj {key key' : String} {t : TimeStamp}
    (h : logFileName key t = logFileName key' t) : safeName key = safeName key' := by
  have own := isFileName_logFileName key t
  rw [h] at own
  have stem := (own.inj (isFileName_logFileName key' t)).1
  simp only [String.toList_append, List.append_cancel_right_eq] at stem
  exact String.toList_inj.1 stem

/-- The names of the files of a group with some key at a point in time: its artifacts and its failure
log. -/
def fileNames (t : TimeStamp) (key : String) : List String :=
  Artifact.extensions.map (fun ext => safeName key ++ "." ++ ext) ++ [logFileName key t]

theorem fileNames_nodup (t : TimeStamp) (key : String) : (fileNames t key).Nodup := by
  refine List.nodup_append.2 ⟨?artifacts, List.nodup_singleton _, fun name hn log hl => ?log⟩
  case artifacts =>
    exact List.Nodup.map_on (fun ext h ext' h' he => (Artifact.name_inj h h' he).2) (by decide)
  case log =>
    obtain ⟨ext, h, rfl⟩ := List.mem_map.1 hn
    rw [List.mem_singleton.1 hl]
    exact Artifact.name_ne_log key key h t

/-- A file name tells the safe name of the key it was made from. -/
theorem safeName_eq_of_mem {name key key' : String} {t : TimeStamp} (h : name ∈ fileNames t key)
    (h' : name ∈ fileNames t key') : safeName key = safeName key' := by
  simp only [fileNames, List.mem_append, List.mem_map, List.mem_singleton] at h h'
  rcases h with ⟨ext, h, rfl⟩ | rfl <;> rcases h' with ⟨ext', h', he⟩ | he
  case inl.inl => exact (Artifact.name_inj h h' he.symm).1
  case inl.inr => exact absurd he (Artifact.name_ne_log _ _ h t)
  case inr.inl => exact absurd he (Artifact.name_ne_log _ _ h' t)
  case inr.inr => exact logFileName_inj he

theorem disjoint_fileNames_iff {key key' : String} {t : TimeStamp} :
    (fileNames t key).Disjoint (fileNames t key') ↔ safeName key ≠ safeName key' := by
  constructor
  · intro disjoint same
    have log (key : String) : logFileName key t ∈ fileNames t key :=
      List.mem_append_right _ List.mem_cons_self
    refine disjoint (log key) ?_
    rw [logFileName, same]
    exact log key'
  · exact fun apart _ h h' => apart (safeName_eq_of_mem h h')

/-- The files of trimmed keys have names of their own just if the masked keys are apart. -/
theorem flatMap_fileNames_nodup_iff {keys : List String} (h : ∀ k ∈ keys, Chars.Trimmed k.toList)
    (t : TimeStamp) : (keys.flatMap (fileNames t)).Nodup ↔ (keys.map masked).Nodup := by
  rw [List.nodup_flatMap, List.Nodup, List.pairwise_map]
  refine (and_iff_right fun key _ => fileNames_nodup t key).trans ?_
  refine List.Pairwise.iff_of_mem fun {key key'} hk hk' => ?_
  rw [← safeName_of_trimmed (h key hk), ← safeName_of_trimmed (h key' hk')]
  exact disjoint_fileNames_iff

/-! ## Groups -/

namespace CompilationGroup

variable {baseType : String} {units : List ParsedUnit}

/-- The key of a group is the root of a namespace, if the roots of the sources are. -/
theorem trimmed_key (rooted : ∀ u ∈ units, u.rootName = rootNamespace u.namespaceName)
    {key : String} (h : key ∈ (partition baseType units).map CompilationGroup.key) :
    Chars.Trimmed key.toList := by
  obtain ⟨g, hg, rfl⟩ := List.mem_map.1 h
  obtain ⟨hu, hne⟩ := units_of_mem_partition hg
  obtain ⟨u, hm⟩ := List.exists_mem_of_ne_nil _ hne
  rw [hu, List.mem_filter] at hm
  rw [← of_decide_eq_true hm.2, rooted u hm.1]
  exact trimmed_rootNamespace u.namespaceName

/-- Of the groups of some sources, no two have a file name in common just if their keys are apart still
when the characters that cannot stand in file names are replaced. Then no group overwrites what belongs
to another one. -/
theorem partition_fileNames_nodup_iff
    (rooted : ∀ u ∈ units, u.rootName = rootNamespace u.namespaceName) (t : TimeStamp) :
    ((partition baseType units).flatMap fun g => fileNames t g.key).Nodup ↔
      ((partition baseType units).map fun g => masked g.key).Nodup := by
  have trimmed : ∀ key ∈ (partition baseType units).map CompilationGroup.key,
      Chars.Trimmed key.toList :=
    fun _ hk => trimmed_key rooted hk
  have keys := flatMap_fileNames_nodup_iff trimmed t
  rwa [List.flatMap_map, List.map_map] at keys

/-- A source that declares a namespace. -/
def unitOf (namespaceName : String) : ParsedUnit :=
  .ofTree ⟨"a.cs"⟩ "" ⟨⟨"a.cs"⟩, [.scope namespaceName true []], []⟩

theorem partition_fileNames_nodup_two_roots :
    (∀ u ∈ ["a:b", "a.b", "a:b.c"].map unitOf, u.rootName = rootNamespace u.namespaceName) ∧
      (partition "" (["a:b", "a.b", "a:b.c"].map unitOf)).map CompilationGroup.key = ["a:b", "a"] ∧
      ((partition "" (["a:b", "a.b", "a:b.c"].map unitOf)).flatMap fun g =>
        fileNames ⟨2024, 1, 1, 0, 0, 0⟩ g.key).Nodup :=
  ⟨by decide +kernel, by decide +kernel,
    (partition_fileNames_nodup_iff (by decide +kernel) _).2 (by decide +kernel)⟩

/-- The groups of any sources have file names of their own. -/
def FileNamesApart : Prop :=
  ∀ (baseType : String) (units : List ParsedUnit) (t : TimeStamp),
    (∀ u ∈ units, u.rootName = rootNamespace u.namespaceName) →
      ((partition baseType units).flatMap fun g => fileNames t g.key).Nodup

/-- The roots `a:b` and `a?b` are those of two groups, which both have the files of `a_b`. -/
theorem not_fileNamesApart : ¬ FileNamesApart := by
  intro apart
  have nodup := apart "" (["a:b", "a?b"].map unitOf) ⟨2024, 1, 1, 0, 0, 0⟩ (by decide +kernel)
  revert nodup
  decide +kernel

end CompilationGroup

namespace Engine

variable {φ σ ρ : Type} {e : Engine φ σ ρ} {root : Path} {files : φ} {report : BuildReport}
  {xs : List (Exchange ρ)}

theorem Reported.trimmed_keys (h : e.Reported root files report xs) :
    ∀ key ∈ report.groups.map GroupOutcome.key, Chars.Trimmed key.toList := by
  obtain @⟨paths, intake, references, parses, outcomes, runs, -, taken, built⟩ := h
  have rooted : ∀ u ∈ intake.units, u.rootName = rootNamespace u.namespaceName := by
    intro u hu
    rw [(taken.units u hu).1]
    rfl
  rw [built.keys]
  exact fun key hk => CompilationGroup.trimmed_key rooted hk

/-- So it is with the groups of a build. -/
theorem buildDir_fileNames_nodup_iff {clock : Nat → TimeStamp} {s : EngineState φ σ ρ}
    (h : (e.buildDir root clock s).1 = .ok report) (t : TimeStamp) :
    ((report.groups.map GroupOutcome.key).flatMap (fileNames t)).Nodup ↔
      ((report.groups.map GroupOutcome.key).map masked).Nodup :=
  flatMap_fileNames_nodup_iff (e.buildDir_reported h).trimmed_keys t

end Engine
end PluginForge
