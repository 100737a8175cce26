/-
Pruning: which lines of a source go when its compile blames some names. A line goes whole or stays
as it is, what goes is a directive related to a blamed name, and no such directive is left; so every
pruning that removes anything leaves fewer directives.
-/
import Mathlib.Data.List.Forall2
import PluginForge.Proofs.Directives
import PluginForge.Repair.MissingSymbol

namespace PluginForge

open Chars Import

namespace MissingSymbol

/-- Whether a line holds a directive whose target is related to one of the names. -/
def blames (names : List String) (line : List Char) : Bool :=
  (Directive.parse? line).any fun d => names.any (related (.ofList d.target))

theorem selects_eq_blames (names : List String) (line : List Char) :
    selects (fun target => names.any (related target)) line = blames names line :=
  selects_eq _ line

/-- A source without the lines that are blamed. -/
def Pruned (names : List String) (s t : SourceFile) : Prop :=
  t.path = s.path ∧
    rawLines t.text.toList = (rawLines s.text.toList).filter (! blames names ·)

/-- No line of a source is blamed. -/
def Spares (names : List String) (s : SourceFile) : Prop :=
  ∀ line ∈ rawLines s.text.toList, blames names line = false

/-- The number of lines in some sources that hold a directive. -/
def directives (sources : List SourceFile) : Nat :=
  (sources.flatMap fun s => declared s.text).length

theorem rawLines_pruneText (names : List String) (text : String) :
    rawLines (pruneText names text).1.toList =
      (rawLines text.toList).filter (! blames names ·) := by
  simp only [pruneText, rawLines_removeWhere, selects_eq_blames]

theorem pruneText_snd (names : List String) (text : String) :
    (pruneText names text).2 = (rawLines text.toList).countP (blames names) := by
  rw [pruneText, removeWhere_snd]
  exact List.countP_congr fun line _ => by rw [selects_eq_blames]

theorem prune_pruned (names : List String) (sources : List SourceFile) :
    List.Forall₂ (Pruned names) sources (prune sources names).1 := by
  rw [prune, List.forall₂_map_right_iff, List.forall₂_same]
  exact fun s _ => ⟨rfl, rawLines_pruneText names s.text⟩

@[simp] theorem prune_paths (names : List String) (sources : List SourceFile) :
    (prune sources names).1.map SourceFile.path = sources.map SourceFile.path := by
  simp [prune]

theorem exists_pruned {names : List String} {sources : List SourceFile} {t : SourceFile}
    (ht : t ∈ (prune sources names).1) : ∃ s ∈ sources, Pruned names s t := by
  simp only [prune, List.mem_map] at ht
  obtain ⟨s, hs, rfl⟩ := ht
  exact ⟨s, hs, rfl, rawLines_pruneText names s.text⟩

theorem Pruned.spares {names : List String} {s t : SourceFile} (h : Pruned names s t) :
    Spares names t := by
  intro line hl
  rw [h.2, List.mem_filter] at hl
  simpa using hl.2

/-- What is spared stays so when other names are blamed. -/
theorem Spares.pruned {names others : List String} {s t : SourceFile} (hs : Spares names s)
    (h : Pruned others s t) : Spares names t := by
  intro line hl
  rw [h.2, List.mem_filter] at hl
  exact hs line hl.1

theorem pruneText_snd_eq_zero {names : List String} {s : SourceFile} :
    (pruneText names s.text).2 = 0 ↔ Spares names s := by
  rw [pruneText_snd, List.countP_eq_zero]
  exact forall₂_congr fun line _ => by simp

theorem prune_cons_snd (names : List String) (s : SourceFile) (rest : List SourceFile) :
    (prune (s :: rest) names).2 = (pruneText names s.text).2 + (prune rest names).2 := rfl

/-- Nothing is removed from sources just when all of them are spared. -/
theorem prune_snd_eq_zero {names : List String} {sources : List SourceFile} :
    (prune sources names).2 = 0 ↔ ∀ s ∈ sources, Spares names s := by
  induction sources with
  | nil => exact ⟨fun _ => List.forall_mem_nil _, fun _ => rfl⟩
  | cons s rest ih =>
    rw [prune_cons_snd, Nat.add_eq_zero_iff, pruneText_snd_eq_zero, ih, List.forall_mem_cons]

/-- As many directives are gone as were removed. -/
theorem directives_prune (names : List String) (sources : List SourceFile) :
    directives (prune sources names).1 + (prune sources names).2 = directives sources := by
  induction sources with
  | nil => rfl
  | cons s rest ih =>
    have hs := declared_removeWhere s.text fun target => names.any (related target)
    rw [prune_cons_snd]
    simp only [directives, prune, pruneText, List.map_cons, List.flatMap_cons,
      List.length_append] at ih hs ⊢
    omega

end MissingSymbol
end PluginForge
