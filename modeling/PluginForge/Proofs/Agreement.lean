/-
Two states of the file system in memory that hold the same under all names but some. Files are kept
in the order of their names, so the two states also list the same files of the other names, in the
same order; a build then finds the same sources and references in both. The same changes, or changes
under the names left out, keep the two states alike.
-/
import Mathlib.Data.List.Sort
import Mathlib.Data.String.Basic
import PluginForge.Proofs.Confinement
import PluginForge.Proofs.Failures
import PluginForge.Proofs.Recording

namespace PluginForge

namespace MemoryStore

/-! ## Files in the order of their names -/

/-- The names of files rise from each to the next. -/
def Sorted (files : List (String × Bytes)) : Prop :=
  files.Pairwise fun f g => f.1 < g.1

namespace Sorted

variable {files files' : List (String × Bytes)}

theorem insert (h : Sorted files) (name : String) (content : Bytes) :
    Sorted (insert name content files) := by
  induction files with
  | nil => exact List.pairwise_singleton _ _
  | cons f rest ih =>
    obtain ⟨n, c⟩ := f
    obtain ⟨first, others⟩ := List.pairwise_cons.1 h
    unfold MemoryStore.insert
    split
    · rename_i same
      subst same
      exact List.pairwise_cons.2 ⟨first, others⟩
    · rename_i other
      split
      · rename_i lower
        refine List.pairwise_cons.2 ⟨fun g hg => ?_, h⟩
        rcases List.mem_cons.1 hg with rfl | hg
        · exact lower
        · exact lower.trans (first g hg)
      · rename_i notLower
        refine List.pairwise_cons.2 ⟨fun g hg => ?_, ih others⟩
        rcases mem_insert hg with rfl | hg
        · exact lt_of_le_of_ne (not_lt.1 notLower) (Ne.symm other)
        · exact first g hg

theorem erase (h : Sorted files) (name : String) : Sorted (erase name files) :=
  h.filter _

theorem filter (h : Sorted files) (q : String → Bool) : Sorted (files.filter fun f => q f.1) :=
  List.Pairwise.filter _ h

theorem find?_eq_some_iff (h : Sorted files) {name : String} {content : Bytes} :
    find? name files = some content ↔ (name, content) ∈ files := by
  have names : (files.map (·.1)).Nodup :=
    List.pairwise_map.2 (h.imp fun lower => ne_of_lt lower)
  exact ⟨mem_of_find?, find?_of_nodup names⟩

/-- Files in order are known by what is found among them. -/
theorem eq_of_mem_iff (h : Sorted files) (h' : Sorted files')
    (same : ∀ f, f ∈ files ↔ f ∈ files') : files = files' := by
  have : Std.Irrefl fun f g : String × Bytes => f.1 < g.1 := ⟨fun f => lt_irrefl f.1⟩
  have : Std.Antisymm fun f g : String × Bytes => f.1 < g.1 :=
    ⟨fun _ _ lower upper => absurd upper lower.asymm⟩
  exact List.Pairwise.eq_of_mem_iff h h' same

end Sorted

theorem Reachable.sorted {m : MemoryStore} (h : m.Reachable) : Sorted m.files := by
  induction h with
  | empty => exact List.Pairwise.nil
  | @write m p content _ ih =>
    cases hw : (m.write p content).1 with
    | error err => rwa [write_error hw]
    | ok u =>
      rw [write_ok hw]
      exact ih.insert _ _
  | remove p _ ih =>
    rw [remove_files]
    exact ih.erase _
  | makeDir p _ ih => rwa [makeDir_files]

/-! ## The same but for some names -/

/-- The two states hold the same under all names but those that fulfil `P`. -/
def Agree (P : String → Prop) (m m' : MemoryStore) : Prop :=
  ∀ name, ¬ P name → find? name m.files = find? name m'.files

namespace Agree

variable {P : String → Prop} {m m' n n' : MemoryStore}

theorem symm (h : Agree P m m') : Agree P m' m :=
  fun name hn => (h name hn).symm

theorem trans (h : Agree P m m') (h' : Agree P m' n) : Agree P m n :=
  fun name hn => (h name hn).trans (h' name hn)

theorem of_files (h : m.files = m'.files) : Agree P m m' :=
  fun name _ => by rw [h]

theorem of_confined (h : Confined P m m') : Agree P m m' :=
  fun name hn => (h.find name hn).symm

theorem read (h : Agree P m m') {p : Path} (hp : ¬ P (normalize p)) :
    fileSystem.read p m = fileSystem.read p m' := by
  change m.read p = m'.read p
  rw [MemoryStore.read, MemoryStore.read, h _ hp]

theorem size (h : Agree P m m') {p : Path} (hp : ¬ P (normalize p)) :
    fileSystem.size p m = fileSystem.size p m' := by
  change (m.read p).map List.length = (m'.read p).map List.length
  rw [MemoryStore.read, MemoryStore.read, h _ hp]

theorem isFile (h : Agree P m m') {p : Path} (hp : ¬ P (normalize p)) :
    fileSystem.isFile p m = fileSystem.isFile p m' := by
  refine Bool.eq_iff_iff.2 ?_
  change m.contains _ = true ↔ m'.contains _ = true
  rw [contains_iff, contains_iff, h _ hp]

/-- Two states hold the same files, in the same order, under the names that they agree on. -/
theorem filter_eq (h : Agree P m m') (hm : Sorted m.files) (hm' : Sorted m'.files)
    (q : String → Bool) (hq : ∀ name, q name = true → ¬ P name) :
    m.files.filter (fun f => q f.1) = m'.files.filter fun f => q f.1 := by
  refine (hm.filter q).eq_of_mem_iff (hm'.filter q) fun f => ?_
  rw [List.mem_filter, List.mem_filter]
  refine and_congr_left fun hf => ?_
  rw [← hm.find?_eq_some_iff, ← hm'.find?_eq_some_iff, h f.1 (hq f.1 hf)]

end Agree

/-- The files of a directory with an extension, in order. -/
def listed (dir : Path) (extension : String) (recursive : Bool) (m : MemoryStore) : List Path :=
  ((m.files.map (·.1)).filter (isListed (below (normalize dir)) extension recursive)).map .mk

theorem mem_listed {dir p : Path} {extension : String} {recursive : Bool} {m : MemoryStore} :
    p ∈ listed dir extension recursive m ↔
      isListed (below (normalize dir)) extension recursive p.text = true ∧
        find? p.text m.files ≠ none := by
  rw [find?_ne_none_iff, listed, List.mem_map]
  constructor
  · rintro ⟨name, hn, rfl⟩
    exact (List.mem_filter.1 hn).symm
  · rintro ⟨hl, hf⟩
    exact ⟨p.text, List.mem_filter.2 ⟨hf, hl⟩, rfl⟩

theorem isDirName_of_mem_listed {dir p : Path} {extension : String} {recursive : Bool}
    {m : MemoryStore} (h : p ∈ listed dir extension recursive m) :
    m.isDirName (normalize dir) = true :=
  isDirName_of_isListed (mem_listed.1 h).1 (mem_listed.1 h).2

theorem eq_listed {dir : Path} {extension : String} {recursive : Bool} {m : MemoryStore}
    {paths : List Path} (h : fileSystem.list dir extension recursive m = .ok paths) :
    paths = listed dir extension recursive m := by
  by_cases there : m.isDirName (normalize dir) = true
  · exact Except.ok.inj (h.symm.trans (list_ok there))
  · rw [list_error there] at h
    cases h

/-- What is listed is listed under its own name. -/
theorem Normal.hasExtension_of_mem_listed {dir p : Path} {extension : String} {recursive : Bool}
    {m : MemoryStore} (hm : m.Normal) (h : p ∈ listed dir extension recursive m) :
    (Path.mk (normalize p)).hasExtension extension = true := by
  obtain ⟨hl, hf⟩ := mem_listed.1 h
  rw [hm.normalize_of_find? hf]
  exact hasExtension_of_isListed hl

theorem Agree.listed_eq {P : String → Prop} {m m' : MemoryStore} (h : Agree P m m')
    (hm : Sorted m.files) (hm' : Sorted m'.files) {extension : String}
    (hx : ∀ name, (Path.mk name).hasExtension extension = true → ¬ P name) (dir : Path)
    (recursive : Bool) :
    listed dir extension recursive m = listed dir extension recursive m' := by
  have same := h.filter_eq hm hm' (isListed (below (normalize dir)) extension recursive)
    fun name hl => hx name (hasExtension_of_isListed hl)
  simp only [listed, List.filter_map, Function.comp_def, same]

end MemoryStore

open MemoryStore

/-! ## What is looked at among files that agree -/

section

variable {P : String → Prop} {m m' : MemoryStore} (h : Agree P m m') (hm : m.Reachable)
  (hm' : m'.Reachable)

namespace Intake

include h

theorem readUnit_agree {p : Path} (hp : ¬ P (normalize p)) :
    readUnit fileSystem p m = readUnit fileSystem p m' := by
  unfold readUnit
  rw [h.size hp, h.read hp]

include hm hm'

/-- Sources that are found among some files are found again among files that agree with these. -/
theorem discover_agree
    (hx : ∀ name, (Path.mk name).hasExtension sourceExtension = true → ¬ P name)
    {settings : Settings} {root : Path} {paths : List Path}
    (found : discover fileSystem settings root m = (.ok paths, m)) (some : paths ≠ []) :
    discover fileSystem settings root m' = (.ok paths, m') := by
  have list := (discover_eq_ok found).1
  have same := h.listed_eq hm.sorted hm'.sorted hx root settings.includeSubdirectories
  rw [← eq_listed list] at same
  obtain ⟨p, hp⟩ := List.exists_mem_of_ne_nil _ some
  have there : m.isDirName (normalize root) = true :=
    isDirName_of_mem_listed (eq_listed list ▸ hp)
  have there' : m'.isDirName (normalize root) = true := isDirName_of_mem_listed (same ▸ hp)
  have first : Listed fileSystem settings root m paths := ⟨there, list⟩
  have again : Listed fileSystem settings root m' paths :=
    ⟨there', (list_ok there').trans (congrArg Except.ok same.symm)⟩
  have sizes : totalSize fileSystem m' paths = totalSize fileSystem m paths :=
    totalSize_congr fun p hp =>
      (h.size (hx _ (hm.normal.hasExtension_of_mem_listed (eq_listed list ▸ hp)))).symm
  rw [first.discover] at found
  rw [again.discover, sizes]
  split at found
  · cases found
  · rename_i few
    rw [if_neg few]
    cases total : totalSize fileSystem m paths with
    | error err =>
      rw [total] at found
      cases found
    | ok n =>
      rw [total] at found
      dsimp only at found ⊢
      split at found
      · cases found
      · rename_i small
        rw [if_neg small]

end Intake

namespace Reference

variable {settings : Settings} {roots : ReferenceRoots}

/-- The user's assemblies are those listed, whether or not there is a directory for them. -/
theorem userAssemblies_eq_listed (dir : Path) (m : MemoryStore) :
    (userAssemblies fileSystem dir m).1 = listed dir libraryExtension true m := by
  unfold userAssemblies
  split
  · rename_i there
    rw [list_ok there]
    rfl
  · rename_i missing
    refine (List.eq_nil_iff_forall_not_mem.2 fun p hp => missing ?_).symm
    exact isDirName_of_mem_listed hp

include h

theorem isUsable_agree {p : Path} (hp : ¬ P (normalize p)) :
    isUsable fileSystem m p = isUsable fileSystem m' p := by
  unfold isUsable
  rw [h.read hp]

include hm hm'

/-- Files that agree give the same references. -/
theorem getOrResolve_agree
    (hx : ∀ name, (Path.mk name).hasExtension libraryExtension = true → ¬ P name)
    (outside : ∀ p ∈ hostPaths settings roots ++ runtimePaths settings roots, ¬ P (normalize p)) :
    (getOrResolve fileSystem settings roots none m).1 =
      (getOrResolve fileSystem settings roots none m').1 := by
  have opened : Agree P (candidates fileSystem settings roots m).2
      (candidates fileSystem settings roots m').2 :=
    (Agree.of_files (candidates_files settings roots m)).trans
      (h.trans (Agree.of_files (candidates_files settings roots m').symm))
  have users : (userAssemblies fileSystem roots.assemblies m).1 =
      (userAssemblies fileSystem roots.assemblies m').1 := by
    rw [userAssemblies_eq_listed, userAssemblies_eq_listed]
    exact h.listed_eq hm.sorted hm'.sorted hx roots.assemblies true
  have others : (hostPaths settings roots ++ runtimePaths settings roots).filter
        (fun p => fileSystem.isFile p (candidates fileSystem settings roots m).2) =
      (hostPaths settings roots ++ runtimePaths settings roots).filter
        fun p => fileSystem.isFile p (candidates fileSystem settings roots m').2 :=
    List.filter_congr fun p hp => opened.isFile (outside p hp)
  have same : (candidates fileSystem settings roots m).1 =
      (candidates fileSystem settings roots m').1 :=
    congrArg₂ (· ++ ·) users others
  have apart : ∀ p ∈ (candidates fileSystem settings roots m).1, ¬ P (normalize p) := by
    intro p hp
    rcases List.mem_append.1 hp with hp | hp
    · have hp : p ∈ (userAssemblies fileSystem roots.assemblies m).1 := hp
      rw [userAssemblies_eq_listed] at hp
      exact hx _ (hm.normal.hasExtension_of_mem_listed hp)
    · exact outside p (List.mem_of_mem_filter hp)
  have selected : select fileSystem (candidates fileSystem settings roots m).2
        (candidates fileSystem settings roots m).1 =
      select fileSystem (candidates fileSystem settings roots m').2
        (candidates fileSystem settings roots m').1 := by
    rw [select, select, ← same, List.filter_congr fun p hp => isUsable_agree opened (apart p hp)]
  rw [getOrResolve, getOrResolve, resolve_eq, resolve_eq, selected]
  cases select fileSystem (candidates fileSystem settings roots m').2
    (candidates fileSystem settings roots m').1 <;> rfl

end Reference

end

/-! ## Changes to both -/

/-- The two calls are the same, or change files under the names that fulfil `P` at most. -/
def StoreChange.AlikeBut (P : String → Prop) (c c' : StoreChange) : Prop :=
  c = c' ∨ c.Within P ∧ c'.Within P

namespace MemoryStore.Agree

variable {P : String → Prop} {m m' n n' : MemoryStore}

theorem does (h : Agree P m m') {c : StoreChange} (first : fileSystem.Does m c n)
    (first' : fileSystem.Does m' c n') : Agree P n n' := by
  intro name hn
  have same := h name hn
  cases first with
  | @write p content _ r _ hw =>
    cases first' with | write hw' =>
    obtain rfl : (m.write p content).2 = n := congrArg Prod.snd hw
    obtain rfl : (m'.write p content).2 = n' := congrArg Prod.snd hw'
    have result : (m.write p content).1 = r := congrArg Prod.fst hw
    have result' : (m'.write p content).1 = r := congrArg Prod.fst hw'
    cases r with
    | error err => rwa [write_error result, write_error result']
    | ok u => rw [write_ok result, write_ok result', find?_insert, find?_insert, same]
  | @remove p _ r _ hr =>
    cases first' with | remove hr' =>
    obtain rfl : (m.remove p).2 = n := congrArg Prod.snd hr
    obtain rfl : (m'.remove p).2 = n' := congrArg Prod.snd hr'
    rw [remove_files, remove_files, find?_erase, find?_erase, same]
  | @makeDir p _ r _ hd =>
    cases first' with | makeDir hd' =>
    obtain rfl : (m.makeDir p).2 = n := congrArg Prod.snd hd
    obtain rfl : (m'.makeDir p).2 = n' := congrArg Prod.snd hd'
    rwa [makeDir_files, makeDir_files]

/-- Changes that are alike keep two states alike. -/
theorem did (h : Agree P m m') {changes changes' : List StoreChange}
    (alike : List.Forall₂ (StoreChange.AlikeBut P) changes changes')
    (done : fileSystem.Did m changes n) (done' : fileSystem.Did m' changes' n') : Agree P n n' := by
  induction alike generalizing m m' with
  | nil =>
    cases done
    cases done'
    exact h
  | cons ha _ ih =>
    cases done with | cons first rest =>
    cases done' with | cons first' rest' =>
    refine ih ?_ rest rest'
    rcases ha with rfl | ⟨within, within'⟩
    · exact h.does first first'
    · have apart := of_confined (.of_did first.did (List.forall_mem_singleton.2 within))
      have apart' := of_confined (.of_did first'.did (List.forall_mem_singleton.2 within'))
      exact apart.symm.trans (h.trans apart')

end MemoryStore.Agree
end PluginForge
