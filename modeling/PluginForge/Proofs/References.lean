/-
The reference set of a build, seen from its candidates: it is empty exactly when none is kept and no
candidate is usable.
-/
import PluginForge.Proofs.FirstOccurrences
import PluginForge.Reference.Resolve

namespace PluginForge.Reference

variable {φ : Type} (fs : FileSystem φ) (settings : Settings) (roots : ReferenceRoots)

/-- What may become a reference, in order, and the files with the directory of the user's
assemblies. -/
def candidates (files : φ) : List Path × φ :=
  let (users, files) := userAssemblies fs roots.assemblies files
  (users ++ (hostPaths settings roots ++ runtimePaths settings roots).filter
    fun p => fs.isFile p files, files)

theorem resolve_eq (files : φ) :
    resolve fs settings roots files =
      match select fs (candidates fs settings roots files).2
        (candidates fs settings roots files).1 with
      | [] => (.error .empty, (candidates fs settings roots files).2)
      | paths => (.ok paths, (candidates fs settings roots files).2) := by
  rfl

/-- Adding paths appends the first of every place that was not there before. -/
theorem foldl_addPath_eq (taken paths : List Path) :
    paths.foldl addPath taken =
      taken ++ (paths.filter fun p => !taken.any p.same).eraseDupsBy Path.same :=
  foldl_takeUp_eq Path.same taken paths

theorem select_eq_nil_iff {files : φ} {paths : List Path} :
    select fs files paths = [] ↔ ∀ p ∈ paths, isUsable fs files p = false := by
  have hf : paths.filter (isUsable fs files) = [] ↔ ∀ p ∈ paths, isUsable fs files p = false := by
    simp
  rw [select, foldl_addPath_eq, ← hf]
  cases paths.filter (isUsable fs files) with
  | nil => exact iff_of_true rfl rfl
  | cons p rest => simp [List.eraseDupsBy_cons]

/-- No reference set is kept, and no candidate is usable. -/
structure NoneUsable (kept : Option (List Path)) (files : φ) : Prop where
  notKept : kept = none
  unusable : ∀ p ∈ (candidates fs settings roots files).1,
    isUsable fs (candidates fs settings roots files).2 p = false

theorem getOrResolve_eq_error_iff {kept : Option (List Path)} {files : φ} :
    (getOrResolve fs settings roots kept files).1 = .error .empty ↔
      NoneUsable fs settings roots kept files := by
  have hs := @select_eq_nil_iff _ fs (candidates fs settings roots files).2
    (candidates fs settings roots files).1
  cases kept with
  | some paths => exact ⟨nofun, fun h => nomatch h.notKept⟩
  | none =>
    rw [getOrResolve, resolve_eq]
    cases hc : select fs (candidates fs settings roots files).2
      (candidates fs settings roots files).1 with
    | nil => exact ⟨fun _ => ⟨rfl, hs.1 hc⟩, fun _ => rfl⟩
    | cons p rest =>
      refine ⟨nofun, fun h => ?_⟩
      rw [hs.2 h.unusable] at hc
      cases hc

end PluginForge.Reference
