/-
Lookups by key in lists of pairs, which is how both the files of a store and the scripts on a shelf
are kept.
-/
import Mathlib.Data.List.Nodup

namespace PluginForge

variable {κ α : Type} [DecidableEq κ] {k : κ} {a : α} {l : List (κ × α)}

/-- Nothing is found under a key that is taken out, and the rest is found as before. -/
theorem find?_key_filter_ne (n : κ) :
    (l.filter fun e => e.1 ≠ n).find? (fun e => e.1 = k) =
      if n = k then none else l.find? fun e => e.1 = k := by
  rw [List.find?_filter]
  split
  · rename_i h
    simp [h]
  · rename_i h
    refine congrArg (l.find? ·) (funext fun e => ?_)
    by_cases he : e.1 = k
    · simp [he, Ne.symm h]
    · simp [he]

/-- Of keys that are all different, each has its own entry. -/
theorem find?_key_of_nodup (hn : (l.map (·.1)).Nodup) (h : (k, a) ∈ l) :
    l.find? (fun e => e.1 = k) = some (k, a) := by
  cases hf : l.find? (fun e => e.1 = k) with
  | none =>
    have hk := List.find?_eq_none.1 hf _ h
    simp at hk
  | some e =>
    have he : e.1 = k := by simpa using List.find?_some hf
    exact congrArg some (List.inj_on_of_nodup_map hn (List.mem_of_find?_eq_some hf) h he)

end PluginForge
