/-
First occurrences in a list. Taking elements up one by one, each unless its like is there already,
keeps what was there and appends the first occurrence of everything new.
-/
import Mathlib.Data.List.Induction
import Mathlib.Data.List.Nodup

namespace PluginForge

variable {α : Type}

/-- What is taken up one by one unless its like is there, behind what is there. -/
theorem foldl_takeUp_eq (like : α → α → Bool) (taken xs : List α) :
    xs.foldl (fun acc x => if acc.any (like x) then acc else acc ++ [x]) taken =
      taken ++ (xs.filter fun x => !taken.any (like x)).eraseDupsBy like := by
  induction xs generalizing taken with
  | nil => simp
  | cons x rest ih =>
    rw [List.foldl_cons, ih]
    cases known : taken.any (like x) with
    | true => simp [known]
    | false =>
      -- What is new after `x` was taken is what was new before, without the likes of `x`.
      have narrowed : (rest.filter fun y => !(taken ++ [x]).any (like y)) =
          (rest.filter fun y => !taken.any (like y)).filter fun y => decide (like y x = false) := by
        rw [List.filter_filter]
        exact List.filter_congr fun y _ => by simp [Bool.and_comm]
      rw [List.filter_cons_of_pos (by simp [known]), List.eraseDupsBy_cons, ← narrowed]
      simp

variable [DecidableEq α]

theorem foldl_takeNew_eq (xs : List α) :
    xs.foldl (fun acc x => if x ∈ acc then acc else acc ++ [x]) [] = xs.eraseDups := by
  simpa [List.eraseDups] using foldl_takeUp_eq (· == ·) [] xs

/-- One more element at the end is a first occurrence unless it is there already. -/
theorem eraseDups_concat (xs : List α) (x : α) :
    (xs ++ [x]).eraseDups = if x ∈ xs then xs.eraseDups else xs.eraseDups ++ [x] := by
  rw [← foldl_takeNew_eq, List.foldl_append, foldl_takeNew_eq]
  simp only [List.foldl_cons, List.foldl_nil, List.mem_eraseDups]

theorem nodup_eraseDups (xs : List α) : xs.eraseDups.Nodup := by
  induction xs using List.reverseRecOn with
  | nil => exact List.nodup_nil
  | append_singleton xs x ih =>
    rw [eraseDups_concat]
    split
    · exact ih
    · rename_i hx
      exact List.nodup_append.2 ⟨ih, List.nodup_singleton x, fun y hy z hz e =>
        hx (List.mem_eraseDups.1 (List.mem_singleton.1 hz ▸ e ▸ hy))⟩

end PluginForge
