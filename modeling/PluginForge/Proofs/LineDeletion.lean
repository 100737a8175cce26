/-
Deleting lines. Removing configured imports and removing selected directives both take whole lines
out of a text and leave the others as they are. So both are one filter on the lines of the text
(`deleteLines`), and their laws are those of filters: two deletions are one, whichever comes first,
and a deletion that is made again does nothing. What a text declares is read off its lines too, so
of what was declared just that is gone which stood on the deleted lines.
-/
import PluginForge.Proofs.Edits

namespace PluginForge

open Chars

/-! ## Deletions -/

namespace Text

/-- A text without its lines of some kind. -/
def deleteLines (gone : List Char → Bool) (text : String) : String :=
  .ofList ((rawLines text.toList).filter (! gone ·)).flatten

variable {gone : List Char → Bool} {text kept : String}

theorem rawLines_deleteLines (gone : List Char → Bool) (text : String) :
    rawLines (deleteLines gone text).toList = (rawLines text.toList).filter (! gone ·) := by
  rw [deleteLines, String.toList_ofList, rawLines_filter]

/-- What is left is known by its lines. -/
theorem eq_deleteLines
    (h : rawLines kept.toList = (rawLines text.toList).filter (! gone ·)) :
    kept = deleteLines gone text := by
  rw [deleteLines, ← h, flatten_rawLines, String.ofList_toList]

/-- Two deletions are one. -/
theorem deleteLines_deleteLines (p q : List Char → Bool) (text : String) :
    deleteLines q (deleteLines p text) = deleteLines (fun line => p line || q line) text := by
  refine eq_deleteLines ?_
  rw [rawLines_deleteLines, rawLines_deleteLines, List.filter_filter]
  refine List.filter_congr fun line _ => ?_
  rw [Bool.not_or, Bool.and_comm]

end Text

namespace Import

open Text (deleteLines eq_deleteLines deleteLines_deleteLines)

/-! ## Configured imports -/

/-- On a line a configured import stands alone, without the blanks around it or as a statement. -/
def NamedOn (removed : List String) (line : List Char) : Prop :=
  ∃ r ∈ removed, Text.isBlank r = false ∧
    (bareLine line = (Text.trim r).toList ∨ bareLine line = (statement r).toList)

instance (removed : List String) (line : List Char) : Decidable (NamedOn removed line) :=
  inferInstanceAs (Decidable (∃ r ∈ removed, _))

theorem trim_mem_spellings {removed : List String} {r : String} (hr : r ∈ removed)
    (hb : Text.isBlank r = false) : Text.trim r ∈ spellings removed := by
  have ne : Text.trim r ≠ "" := by
    intro he
    refine trim_ne_nil hb ?_
    rw [← String.toList_ofList (l := trim r.toList)]
    exact congrArg String.toList he
  refine List.mem_flatMap.2 ⟨Text.trim r, mem_tokens.2 ⟨⟨r, hr, rfl⟩, ne⟩, ?_⟩
  unfold forms
  split <;> exact List.mem_cons_self

/-- The spellings that are looked for are those of the imports that say something. -/
theorem exists_spelling_iff {removed : List String} (hs : ∀ r ∈ removed, SingleLine r)
    {line : List Char} :
    (∃ form ∈ spellings removed, bareLine line = form.toList) ↔ NamedOn removed line := by
  constructor
  · rintro ⟨form, hf, hb⟩
    obtain ⟨r, hr, hblank, he⟩ := spelled_of_mem hs hf
    refine ⟨r, hr, hblank, ?_⟩
    rw [hb]
    exact he.imp (congrArg String.toList) (congrArg String.toList)
  · rintro ⟨r, hr, hblank, hb | hb⟩
    · exact ⟨_, trim_mem_spellings hr hblank, hb⟩
    · exact ⟨_, statement_mem_spellings hr (hs r hr) hblank, hb⟩

theorem strip_eq_deleteLines {removed : List String} (hs : ∀ r ∈ removed, SingleLine r)
    (text : String) :
    strip text removed = deleteLines (fun line => NamedOn removed line) text := by
  refine eq_deleteLines ?_
  rw [rawLines_strip hs]
  refine List.filter_congr fun line _ => ?_
  rw [← decide_not, decide_eq_decide, ← exists_spelling_iff hs]
  simp only [not_exists, not_and, ne_eq]

/-- Removing configured imports deletes just the lines on which one stands alone. Removing them
again changes nothing, and their order does not matter. -/
theorem strip_deletes {removed : List String} (hs : ∀ r ∈ removed, SingleLine r) (text : String) :
    strip text removed = deleteLines (fun line => NamedOn removed line) text ∧
    strip (strip text removed) removed = strip text removed ∧
    ∀ reordered, List.Perm reordered removed → strip text reordered = strip text removed := by
  refine ⟨strip_eq_deleteLines hs text, ?_, fun reordered perm => ?_⟩
  · rw [strip_eq_deleteLines hs, strip_eq_deleteLines hs, deleteLines_deleteLines]
    simp only [Bool.or_self]
  · have hs' : ∀ r ∈ reordered, SingleLine r := fun r hr => hs r (perm.mem_iff.1 hr)
    have same : ∀ line, NamedOn reordered line ↔ NamedOn removed line := fun line =>
      exists_congr fun r => and_congr_left fun _ => perm.mem_iff
    rw [strip_eq_deleteLines hs, strip_eq_deleteLines hs']
    simp only [decide_eq_decide.2 (same _)]

/-- Of four lines three name an import; the other one only looks like one of them. -/
theorem strip_deletes_four_lines :
    strip "\tA \r\nusing A;\nusing AxB;\nusing A*B;\r" [" A", "using A*B;"] = "using AxB;\n" ∧
    strip "using AxB;\n" [" A", "using A*B;"] = "using AxB;\n" ∧
    strip "\tA \r\nusing A;\nusing AxB;\nusing A*B;\r" ["using A*B;", " A"] = "using AxB;\n" := by
  have single : ∀ r ∈ [" A", "using A*B;"], SingleLine r := by decide +kernel
  obtain ⟨deleted, again, reordered⟩ :=
    strip_deletes single "\tA \r\nusing A;\nusing AxB;\nusing A*B;\r"
  have left : strip "\tA \r\nusing A;\nusing AxB;\nusing A*B;\r" [" A", "using A*B;"] =
      "using AxB;\n" := deleted.trans (by decide +kernel)
  rw [left] at again
  exact ⟨left, again, (reordered _ (.swap _ _ _)).trans left⟩

/-! ## Selected directives -/

/-- Whether a statement is a directive whose target is selected. -/
def imports (p : String → Bool) (s : String) : Bool :=
  (Directive.parse? s.toList).any fun d => p (.ofList d.target)

theorem trim_append_blanks (s : List Char) {t : List Char} (ht : t.all isBlank = true) :
    trim (s ++ t) = trim s := by
  have blank : ∀ c ∈ t, isBlank c = true := List.all_eq_true.1 ht
  rw [trim, trim, trimStart, trimStart, List.dropWhile_append]
  split
  · rename_i he
    rw [List.dropWhile_eq_nil_iff.2 blank, List.isEmpty_iff.1 he]
  · exact trimEndOf_append_all _ ht

theorem parse?_trim (line : List Char) :
    Directive.parse? (trim line) = Directive.parse? line := by
  have again : trimStart (trimStart line) = trimStart line := by
    rw [trimStart, trimStart, List.dropWhile_eq_self_iff]
    exact fun h => by simpa using List.dropWhile_get_zero_not _ _ h
  rw [trim, trimEnd, Directive.parse?_trimEndOf fun _ h => h, Directive.parse?_eq, again,
    ← Directive.parse?_eq]

theorem imports_trim (p : String → Bool) (line : List Char) :
    imports p (.ofList (trim line)) = selects p line := by
  rw [imports, String.toList_ofList, parse?_trim, selects_eq]

/-- What a text declares, by its lines with their ends. -/
theorem declared_eq (text : String) :
    declared text =
      ((rawLines text.toList).filter isDirective).map fun line => .ofList (trim line) := by
  have content : ∀ line, trim (lineContent line) = trim line := by
    intro line
    obtain ⟨t, ht, he⟩ := lineContent_append line
    conv_rhs => rw [← he, trim_append_blanks _ ht]
  rw [declared, lines, List.filter_map, List.map_map]
  simp only [Function.comp_def, Directive.parse?_lineContent, content]
  rfl

theorem removeWhere_fst (text : String) (p : String → Bool) :
    (removeWhere text p).1 = deleteLines (selects p) text := rfl

theorem selects_or (p q : String → Bool) :
    selects (fun target => p target || q target) =
      fun line => selects p line || selects q line := by
  funext line
  rw [selects_eq, selects_eq, selects_eq]
  cases Directive.parse? line <;> rfl

/-- Removing twice is removing at once what either selects. -/
theorem removeWhere_removeWhere (text : String) (p q : String → Bool) :
    (removeWhere (removeWhere text p).1 q).1 =
        (removeWhere text fun target => p target || q target).1 ∧
      (removeWhere text p).2 + (removeWhere (removeWhere text p).1 q).2 =
        (removeWhere text fun target => p target || q target).2 := by
  constructor
  · rw [removeWhere_fst, removeWhere_fst, removeWhere_fst, deleteLines_deleteLines, selects_or]
  · rw [removeWhere_snd, removeWhere_snd, removeWhere_snd, rawLines_removeWhere, selects_or]
    induction rawLines text.toList with
    | nil => rfl
    | cons line rest ih =>
      cases hp : selects p line <;> cases hq : selects q line <;> simp [hp, hq] <;> omega

/-- As many directives are removed as are declared and selected. -/
theorem removeWhere_snd_eq_countP (text : String) (p : String → Bool) :
    (removeWhere text p).2 = (declared text).countP (imports p) := by
  rw [removeWhere_snd, declared_eq, List.countP_map, List.countP_filter]
  refine List.countP_congr fun line _ => ?_
  simp only [Function.comp_apply, imports_trim, Bool.and_eq_true]
  exact ⟨fun h => ⟨h, isDirective_of_selects h⟩, And.left⟩

/-- The text then declares what was not selected. -/
theorem declared_removeWhere_eq_filter (text : String) (p : String → Bool) :
    declared (removeWhere text p).1 = (declared text).filter (! imports p ·) := by
  rw [declared_eq, declared_eq, rawLines_removeWhere, List.filter_map, List.filter_comm]
  simp only [Function.comp_def, imports_trim]

end Import

/-! ## Pruning -/

namespace MissingSymbol

open Import

theorem pruneText_pruneText (a b : List String) (text : String) :
    (pruneText b (pruneText a text).1).1 = (pruneText (a ++ b) text).1 ∧
      (pruneText a text).2 + (pruneText b (pruneText a text).1).2 =
        (pruneText (a ++ b) text).2 := by
  have two := removeWhere_removeWhere text (fun target => a.any (related target))
    fun target => b.any (related target)
  simpa only [pruneText, List.any_append] using two

/-- Pruning by some names and then by others is pruning by all of them. -/
theorem prune_prune (a b : List String) (sources : List SourceFile) :
    (prune (prune sources a).1 b).1 = (prune sources (a ++ b)).1 ∧
      (prune sources a).2 + (prune (prune sources a).1 b).2 = (prune sources (a ++ b)).2 := by
  constructor
  · simp only [prune, List.map_map]
    refine List.map_congr_left fun s _ => ?_
    simp only [Function.comp_apply, (pruneText_pruneText a b s.text).1]
  · induction sources with
    | nil => rfl
    | cons s rest ih =>
      have one := (pruneText_pruneText a b s.text).2
      have front : (prune (s :: rest) a).1 =
          { s with text := (pruneText a s.text).1 } :: (prune rest a).1 := rfl
      rw [front, prune_cons_snd, prune_cons_snd, prune_cons_snd]
      dsimp only
      omega

/-- The order of the names does not matter. -/
theorem prune_comm (a b : List String) (sources : List SourceFile) :
    prune sources (a ++ b) = prune sources (b ++ a) := by
  simp only [prune, pruneText, List.any_append, Bool.or_comm]

end MissingSymbol

namespace Import

open MissingSymbol

/-- Removing directives twice is removing at once what is selected the first time or the second, and
their numbers add up. What is removed is counted, and missing, among what the text declares. So
pruning by two lists of names, in either order, is pruning by both at once. -/
theorem removals_combine (text : String) (p q : String → Bool) (sources : List SourceFile)
    (a b : List String) :
    ((removeWhere (removeWhere text p).1 q).1 =
        (removeWhere text fun target => p target || q target).1 ∧
      (removeWhere text p).2 + (removeWhere (removeWhere text p).1 q).2 =
        (removeWhere text fun target => p target || q target).2) ∧
    (removeWhere text p).2 = (declared text).countP (imports p) ∧
    declared (removeWhere text p).1 = (declared text).filter (! imports p ·) ∧
    ((prune (prune sources a).1 b).1 = (prune sources (a ++ b)).1 ∧
      (prune sources a).2 + (prune (prune sources a).1 b).2 = (prune sources (a ++ b)).2) ∧
    ((prune (prune sources b).1 a).1 = (prune sources (a ++ b)).1 ∧
      (prune sources b).2 + (prune (prune sources b).1 a).2 = (prune sources (a ++ b)).2) := by
  refine ⟨removeWhere_removeWhere text p q, removeWhere_snd_eq_countP text p,
    declared_removeWhere_eq_filter text p, prune_prune a b sources, ?_⟩
  rw [prune_comm]
  exact prune_prune b a sources

end Import
end PluginForge
