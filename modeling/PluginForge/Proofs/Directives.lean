/-
Import directives line by line. Reading a directive passes over the blanks behind it, so a line is
read alike with and without its end, and everything that is said of directives can be said of the
lines of a text as they stand.

`Import.removeWhere` deletes whole lines: the lines of its result are those lines of the text that
do not hold a selected directive.
-/
import PluginForge.Import.Edit
import PluginForge.Proofs.Lines
import PluginForge.Proofs.Marks

namespace PluginForge.Import

namespace Directive

open Chars

/-! ## Reading a line -/

/-- Reads a line from the word `using` on. -/
def ofUsing? (isGlobal : Bool) (s : List Char) : Option Directive := do
  let s ← afterWord? "using".toList s
  let (body, tail) ← cut? ';' s
  if tail.all isBlank then ofBody? isGlobal (trimEnd body) else none

theorem parse?_eq (line : List Char) :
    parse? line = match afterWord? "global".toList (trimStart line) with
      | some r => ofUsing? true r
      | none => ofUsing? false (trimStart line) := by
  unfold parse?
  cases h : afterWord? "global".toList (trimStart line) <;> simp only [h] <;> rfl

/-- What stands behind the semicolon matters only in that it is blank. -/
theorem ofUsing?_append {isGlobal : Bool} {a : List Char} (ha : ';' ∉ a) {b b' : List Char}
    (hb : b.all isBlank = b'.all isBlank) :
    ofUsing? isGlobal (a ++ ';' :: b) = ofUsing? isGlobal (a ++ ';' :: b') := by
  have hw : ';' ∉ "using".toList := by decide
  unfold ofUsing?
  rw [afterWord?_append (by decide) hw, afterWord?_append (by decide) hw]
  cases h : afterWord? "using".toList a with
  | none => rfl
  | some r =>
    have hr : ';' ∉ r := fun hm => ha ((afterWord?_suffix h).subset hm)
    simp only [Option.map_some, Option.bind_eq_bind, Option.bind_some, cut?_append hr, hb]

theorem parse?_append {a : List Char} (ha : ';' ∉ a) {b b' : List Char}
    (hb : b.all isBlank = b'.all isBlank) : parse? (a ++ ';' :: b) = parse? (a ++ ';' :: b') := by
  have hw : ';' ∉ "global".toList := by decide
  have ht : ';' ∉ trimStart a := fun hm => ha ((List.dropWhile_suffix isBlank).subset hm)
  rw [parse?_eq, parse?_eq, trimStart_append (by decide), trimStart_append (by decide),
    afterWord?_append (by decide) hw, afterWord?_append (by decide) hw]
  cases h : afterWord? "global".toList (trimStart a) with
  | none => exact ofUsing?_append ht hb
  | some r => exact ofUsing?_append (fun hm => ht ((afterWord?_suffix h).subset hm)) hb

theorem parse?_eq_none {s : List Char} (hs : ';' ∉ s) : parse? s = none := by
  have key : ∀ {g r}, r <:+ s → ofUsing? g r = none := by
    intro g r hr
    unfold ofUsing?
    cases h : afterWord? "using".toList r with
    | none => rfl
    | some t =>
      have ht : ';' ∉ t := fun hm => hs (((afterWord?_suffix h).trans hr).subset hm)
      simp [cut?_eq_none ht]
  have hs' : trimStart s <:+ s := List.dropWhile_suffix isBlank
  rw [parse?_eq]
  split
  · rename_i r h
    exact key ((afterWord?_suffix h).trans hs')
  · exact key hs'

/-- Blanks behind a line, its end included, do not matter. -/
theorem parse?_append_blanks (s : List Char) {t : List Char} (ht : t.all isBlank = true) :
    parse? (s ++ t) = parse? s := by
  by_cases hs : ';' ∈ s
  · obtain ⟨a, b, rfl, ha⟩ := List.eq_append_cons_of_mem hs
    rw [List.append_assoc, List.cons_append]
    exact parse?_append ha (by simp [ht])
  · have hst : ';' ∉ s ++ t := by
      rw [List.mem_append]
      rintro (hm | hm)
      · exact hs hm
      · exact absurd (List.all_eq_true.1 ht _ hm) (by decide)
    rw [parse?_eq_none hs, parse?_eq_none hst]

theorem parse?_trimEndOf {p : Char → Bool} (hp : ∀ c, p c = true → isBlank c = true)
    (s : List Char) : parse? (trimEndOf p s) = parse? s := by
  obtain ⟨t, ht, he⟩ := trimEndOf_append p s
  have hb : t.all isBlank = true :=
    List.all_eq_true.2 fun c hc => hp c (List.all_eq_true.1 ht c hc)
  conv_rhs => rw [← he, parse?_append_blanks _ hb]

theorem parse?_lineContent (line : List Char) : parse? (lineContent line) = parse? line := by
  obtain ⟨t, ht, he⟩ := lineContent_append line
  conv_rhs => rw [← he, parse?_append_blanks _ ht]

end Directive

open Chars

/-! ## Directives of a text -/

/-- Whether a line holds a directive. -/
def isDirective (line : List Char) : Bool :=
  (Directive.parse? line).isSome

theorem declared_length (text : String) :
    (declared text).length = (rawLines text.toList).countP isDirective := by
  simp only [declared, lines, List.length_map, ← List.countP_eq_length_filter, List.countP_map]
  congr 1
  funext line
  simp only [Function.comp_apply, Directive.parse?_lineContent, isDirective]

/-! ## Removing directives -/

/-- A line is selected by the directive that it holds. -/
theorem selects_eq (remove : String → Bool) (line : List Char) :
    selects remove line = (Directive.parse? line).any fun d => remove (.ofList d.target) := by
  unfold selects
  rw [Directive.parse?_trimEndOf]
  · cases Directive.parse? line <;> rfl
  · intro c hc
    rcases Bool.or_eq_true_iff.1 hc with h | h <;> rw [eq_of_beq h] <;> decide

theorem isDirective_of_selects {remove : String → Bool} {line : List Char}
    (h : selects remove line = true) : isDirective line = true := by
  rw [selects_eq] at h
  unfold isDirective
  cases hp : Directive.parse? line with
  | none => rw [hp] at h; cases h
  | some d => rfl

/-- The lines that are left are those that hold no selected directive, as they were. -/
theorem rawLines_removeWhere (text : String) (remove : String → Bool) :
    rawLines (removeWhere text remove).1.toList =
      (rawLines text.toList).filter (! selects remove ·) := by
  simp only [removeWhere, String.toList_ofList, rawLines_filter]

theorem removeWhere_snd (text : String) (remove : String → Bool) :
    (removeWhere text remove).2 = (rawLines text.toList).countP (selects remove) := rfl

/-- As many directives are gone as were removed. -/
theorem declared_removeWhere (text : String) (remove : String → Bool) :
    (declared (removeWhere text remove).1).length + (removeWhere text remove).2 =
      (declared text).length := by
  rw [declared_length, declared_length, rawLines_removeWhere, removeWhere_snd, List.countP_filter]
  induction rawLines text.toList with
  | nil => rfl
  | cons line rest ih =>
    simp only [List.countP_cons]
    cases hs : selects remove line with
    | true => simp only [isDirective_of_selects hs]; simp; omega
    | false => simp; omega

end PluginForge.Import
