/-
Which paths make up a reference set. Adding path after path, each unless its place is there already,
keeps what there was at the front and appends the first of every new place. So a resolved set is
the usable candidates with each place where it first comes, and a set with further paths goes on
from it.
-/
import PluginForge.Compiler.Scripted
import PluginForge.Proofs.References
import PluginForge.Store.Faults
import PluginForge.Store.Memory

namespace PluginForge.Reference

/-! ## Adding paths -/

/-- No two of some paths are the same place. -/
def Apart (paths : List Path) : Prop :=
  paths.Pairwise fun p q => p.same q = false

theorem apart_addPath {paths : List Path} (h : Apart paths) (p : Path) :
    Apart (addPath paths p) := by
  unfold addPath
  split
  · exact h
  · rename_i absent
    refine List.pairwise_append.2 ⟨h, List.pairwise_singleton _ _, fun q hq p' hp' => ?_⟩
    obtain rfl := List.mem_singleton.1 hp'
    have differs : p'.same q = false := by
      simpa using fun same => absent (List.any_eq_true.2 ⟨q, hq, same⟩)
    simpa [Path.same, eq_comm] using differs

theorem apart_foldl_addPath {taken : List Path} (h : Apart taken) (paths : List Path) :
    Apart (paths.foldl addPath taken) := by
  induction paths generalizing taken with
  | nil => exact h
  | cons p _ ih => exact ih (apart_addPath h p)

theorem prefix_foldl_addPath (taken paths : List Path) :
    taken <+: paths.foldl addPath taken := by
  rw [foldl_addPath_eq]
  exact List.prefix_append _ _

theorem foldl_withExtra (chain : List (List Path)) (paths : List Path) :
    chain.foldl withExtra paths = chain.flatten.foldl addPath paths := by
  rw [List.foldl_flatten]
  rfl

/-! ## Candidates -/

variable {φ : Type} (fs : FileSystem φ) (settings : Settings) (roots : ReferenceRoots)

/-- The user's assemblies in the order of their listing: none where the directory is missing or
cannot be listed. -/
def listedAssemblies (dir : Path) (files : φ) : List Path :=
  if fs.isDir dir files then (fs.list dir libraryExtension true files).toOption.getD [] else []

/-- The files with the directory of the user's assemblies, which is made where it is missing. -/
def withAssembliesDir (dir : Path) (files : φ) : φ :=
  if fs.isDir dir files then files else (fs.makeDir dir files).2

theorem userAssemblies_eq (dir : Path) (files : φ) :
    userAssemblies fs dir files =
      (listedAssemblies fs dir files, withAssembliesDir fs dir files) := by
  unfold userAssemblies listedAssemblies withAssembliesDir
  split
  · cases fs.list dir libraryExtension true files <;> rfl
  · rfl

theorem isUsable_eq (files : φ) (p : Path) :
    isUsable fs files p = (fs.read p files).toOption.any isLoadable := by
  unfold isUsable
  cases fs.read p files <;> rfl

/-- The candidates that can be read and are loadable modules, each place where it first comes: the
user's assemblies, then those libraries of the host and then of the platform that are there. -/
def firstUsable (files : φ) : List Path :=
  let after := withAssembliesDir fs roots.assemblies files
  let offered := listedAssemblies fs roots.assemblies files ++
    (hostPaths settings roots).filter (fs.isFile · after) ++
    (runtimePaths settings roots).filter (fs.isFile · after)
  (offered.filter fun p => (fs.read p after).toOption.any isLoadable).eraseDupsBy Path.same

theorem select_candidates (files : φ) :
    select fs (candidates fs settings roots files).2 (candidates fs settings roots files).1 =
      firstUsable fs settings roots files := by
  rw [select, foldl_addPath_eq]
  simp [candidates, firstUsable, userAssemblies_eq, isUsable_eq]

/-! ## Resolved sets -/

theorem resolve_fst (files : φ) :
    (resolve fs settings roots files).1 =
      if firstUsable fs settings roots files = [] then .error .empty
      else .ok (firstUsable fs settings roots files) := by
  rw [resolve_eq, select_candidates]
  cases firstUsable fs settings roots files <;> rfl

theorem apart_of_resolve {files : φ} {paths : List Path}
    (resolved : (resolve fs settings roots files).1 = .ok paths) : Apart paths := by
  rw [resolve_fst, ← select_candidates] at resolved
  split at resolved
  · cases resolved
  · cases resolved
    exact apart_foldl_addPath List.Pairwise.nil _

/-- The usable candidates are resolved to, each place where it first comes; just if there are none,
there is no set. However often a resolved set is then given further paths, what it was at any time
stays at its front, and no place is in it twice. -/
theorem resolve_firstUsable (files : φ) :
    ((resolve fs settings roots files).1 =
      if firstUsable fs settings roots files = [] then .error .empty
      else .ok (firstUsable fs settings roots files)) ∧
    ∀ paths, (resolve fs settings roots files).1 = .ok paths →
      ∀ earlier later : List (List Path),
        earlier.foldl withExtra paths <+: (earlier ++ later).foldl withExtra paths ∧
        Apart ((earlier ++ later).foldl withExtra paths) := by
  refine ⟨resolve_fst fs settings roots files, fun paths resolved earlier later => ⟨?_, ?_⟩⟩
  · rw [List.foldl_append, foldl_withExtra later]
    exact prefix_foldl_addPath _ _
  · rw [foldl_withExtra]
    exact apart_foldl_addPath (apart_of_resolve fs settings roots resolved) _

/-- A file that may not be read and one that is no library are passed over; the host's second
library is the first in another spelling, and the platform's is one of the user's. -/
theorem resolve_firstUsable_overlapping :
    let fs := MemoryStore.fileSystem.withFaults [⟨.read, ⟨"/base/Locked.dll"⟩, none⟩]
    let settings := { Settings.standard with
      hostRuntimeBinaries := ["ServerPlugins/TShockAPI.dll/"], systemAssemblyNames := ["Good.dll"] }
    let roots : ReferenceRoots := ⟨⟨"/base"⟩, some ⟨"/host"⟩, some ⟨"/base"⟩⟩
    let files : MemoryStore := ⟨[
      ("/base/Bad.dll", [0x4D, 0x5A]), ("/base/Good.dll", standInLibrary),
      ("/base/Locked.dll", standInLibrary), ("/base/more/Deep.dll", standInLibrary),
      ("/host/ServerPlugins/TShockAPI.dll", standInLibrary)], []⟩
    let paths : List Path :=
      [⟨"/base/Good.dll"⟩, ⟨"/base/more/Deep.dll"⟩, ⟨"/host/ServerPlugins/TShockAPI.dll"⟩]
    let earlier : List (List Path) := [[⟨"/lib/Extra.dll"⟩, ⟨"/base//Good.dll"⟩], []]
    let later : List (List Path) := [[⟨"/lib//Extra.dll"⟩, ⟨"/lib/Last.dll"⟩]]
    (resolve fs settings roots files).1 = .ok paths ∧
    earlier.foldl withExtra paths <+: (earlier ++ later).foldl withExtra paths ∧
    Apart ((earlier ++ later).foldl withExtra paths) := by
  intro fs settings roots files paths earlier later
  have usable : firstUsable fs settings roots files = paths := by decide +kernel
  have resolved : (resolve fs settings roots files).1 = .ok paths := by
    rw [(resolve_firstUsable fs settings roots files).1, usable]
    rfl
  exact ⟨resolved, (resolve_firstUsable fs settings roots files).2 paths resolved earlier later⟩

end PluginForge.Reference
