/-
What is found on the shelf of compiled scripts after each change: a script that is put there is
found under every spelling of its name until it is taken off, and nothing else changes.
-/
import PluginForge.Proofs.Lookup
import PluginForge.Script.Shelf

namespace PluginForge.Script.Shelf

variable {ρ : Type} (shelf : Shelf ρ) (name : String)

/-- What a shelf has under a name depends on its key alone. -/
theorem find?_of_key_eq {other : String} (h : key name = key other) :
    shelf.find? name = shelf.find? other := by
  rw [find?, find?, h]

@[simp] theorem find?_empty : (empty : Shelf ρ).find? name = none := rfl

theorem find?_erase (n : String) :
    (shelf.erase n).find? name = if key n = key name then none else shelf.find? name := by
  rw [find?, erase, find?_key_filter_ne]
  split <;> rfl

theorem find?_insert (entry : Entry ρ) :
    (shelf.insert entry).find? name =
      if key entry.name = key name then some entry else shelf.find? name := by
  have he := find?_erase shelf name entry.name
  unfold find? at he ⊢
  rw [insert, List.find?_cons]
  by_cases h : key entry.name = key name
  · simp [h]
  · rw [if_neg h] at he ⊢
    simp only [h, decide_false]
    exact he

theorem find?_insert_self (entry : Entry ρ) : (shelf.insert entry).find? entry.name = some entry := by
  rw [find?_insert, if_pos rfl]

theorem find?_clear (n : Option String) :
    (shelf.clear n).2.find? name =
      match n with
      | some n => if key n = key name then none else shelf.find? name
      | none => none := by
  cases n with
  | some n => exact shelf.find?_erase name n
  | none => rfl

theorem holds_iff (hash : String) :
    shelf.holds name hash = true ↔ ∃ e, shelf.find? name = some e ∧ e.contentHash = hash := by
  unfold holds
  cases shelf.find? name <;> simp

end PluginForge.Script.Shelf
