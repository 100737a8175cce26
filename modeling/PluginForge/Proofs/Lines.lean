/-
The lines of a text, as lists of lists of characters. Which lists of lines are those of a text can
be said without the text (`AreLines`), and is kept when some of the lines are taken out: so after
whole lines are deleted from a text, its lines are those that were not deleted.
-/
import Mathlib.Data.List.Basic
import PluginForge.Text.Chars

namespace PluginForge.Chars

/-- The lines of some text: each ends in its only line feed, but for the last one, which may lack it
if it is not empty. -/
inductive AreLines : List (List Char) → Prop
  | nil : AreLines []
  | last {s : List Char} (hs : s ≠ []) (hn : '\n' ∉ s) : AreLines [s]
  | cons {s : List Char} {rest : List (List Char)} (hn : '\n' ∉ s) (h : AreLines rest) :
      AreLines ((s ++ ['\n']) :: rest)

theorem AreLines.consLine {c : Char} {lines : List (List Char)} (h : AreLines lines) :
    AreLines (consLine c lines) := by
  unfold Chars.consLine
  split
  · rename_i hc
    subst hc
    exact .cons (s := []) (by simp) h
  · rename_i hc
    have hne : '\n' ≠ c := fun e => hc e.symm
    cases h with
    | nil => exact .last (by simp) (by simpa using hne)
    | last hs hn => exact .last (by simp) (by simp [hne, hn])
    | @cons s rest hn h => exact .cons (s := c :: s) (by simp [hne, hn]) h

theorem areLines_rawLines (s : List Char) : AreLines (rawLines s) := by
  induction s with
  | nil => exact .nil
  | cons c s ih => exact ih.consLine

theorem rawLines_of_no_feed {s : List Char} (hs : s ≠ []) (hn : '\n' ∉ s) : rawLines s = [s] := by
  induction s with
  | nil => exact absurd rfl hs
  | cons c s ih =>
    simp only [List.mem_cons, not_or] at hn
    have hc : ¬ c = '\n' := fun e => hn.1 e.symm
    by_cases he : s = []
    · subst he; simp [consLine, hc]
    · rw [rawLines_cons, ih he hn.2]
      simp [consLine, hc]

theorem rawLines_append_feed {s : List Char} (hn : '\n' ∉ s) (t : List Char) :
    rawLines (s ++ '\n' :: t) = (s ++ ['\n']) :: rawLines t := by
  induction s with
  | nil => simp [consLine]
  | cons c s ih =>
    simp only [List.mem_cons, not_or] at hn
    have hc : ¬ c = '\n' := fun e => hn.1 e.symm
    rw [List.cons_append, rawLines_cons, ih hn.2]
    simp [consLine, hc]

theorem consLine_append (c : Char) {lines : List (List Char)} (hl : lines ≠ [])
    (more : List (List Char)) : consLine c (lines ++ more) = consLine c lines ++ more := by
  obtain ⟨line, rest, rfl⟩ := List.exists_cons_of_ne_nil hl
  unfold consLine
  split <;> rfl

/-- Behind a line feed a text is cut as if nothing stood in front. -/
theorem rawLines_append {s : List Char} (hs : s.getLast? = some '\n') (t : List Char) :
    rawLines (s ++ t) = rawLines s ++ rawLines t := by
  induction s with
  | nil => cases hs
  | cons c s ih =>
    by_cases he : s = []
    · subst he
      obtain rfl : c = '\n' := by simpa using hs
      simp [consLine]
    · rw [← List.singleton_append, List.getLast?_append_of_ne_nil _ he] at hs
      have hl : rawLines s ≠ [] := by
        intro hn
        have hf := flatten_rawLines s
        rw [hn] at hf
        exact he hf.symm
      rw [List.cons_append, rawLines_cons, ih hs, consLine_append c hl, rawLines_cons]

/-- Every line of a text ends in a line feed. -/
def Ended (s : List Char) : Prop :=
  ∀ line ∈ rawLines s, line.getLast? = some '\n'

theorem ended_concat (s : List Char) : Ended (s ++ ['\n']) := by
  induction s with
  | nil => simp [Ended, consLine]
  | cons c s ih =>
    rw [List.cons_append, Ended, rawLines_cons]
    unfold consLine
    split
    · rename_i hc
      exact List.forall_mem_cons.2 ⟨by rw [hc]; rfl, ih⟩
    · have hf := flatten_rawLines (s ++ ['\n'])
      rw [Ended] at ih
      generalize rawLines (s ++ ['\n']) = lines at ih hf ⊢
      cases lines with
      | nil => simp at hf
      | cons line rest =>
        rw [List.forall_mem_cons] at ih ⊢
        refine ⟨?_, ih.2⟩
        obtain ⟨r, rfl⟩ := List.getLast?_eq_some_iff.1 ih.1
        rw [← List.cons_append, List.getLast?_concat]

/-- Behind ended lines a text is cut as if nothing stood in front. -/
theorem Ended.rawLines_append {s : List Char} (hs : Ended s) (t : List Char) :
    rawLines (s ++ t) = rawLines s ++ rawLines t := by
  rcases List.eq_nil_or_concat' (rawLines s) with he | ⟨init, line, he⟩
  · have hn := flatten_rawLines s
    rw [he] at hn
    rw [he, ← hn]
    rfl
  · refine Chars.rawLines_append ?_ t
    have hline := hs line (he ▸ List.mem_append_right _ (List.mem_singleton_self _))
    obtain ⟨r, rfl⟩ := List.getLast?_eq_some_iff.1 hline
    rw [← flatten_rawLines s, he]
    simp

theorem Ended.append {s t : List Char} (hs : Ended s) (ht : Ended t) : Ended (s ++ t) := by
  rw [Ended, hs.rawLines_append]
  exact List.forall_mem_append.2 ⟨hs, ht⟩

/-- A text is cut into just the lines it was put together from. -/
theorem AreLines.rawLines_flatten {lines : List (List Char)} (h : AreLines lines) :
    rawLines lines.flatten = lines := by
  induction h with
  | nil => rfl
  | last hs hn => simpa using rawLines_of_no_feed hs hn
  | @cons s rest hn _ ih =>
    have : ((s ++ ['\n']) :: rest).flatten = s ++ '\n' :: rest.flatten := by simp
    rw [this, rawLines_append_feed hn, ih]

theorem AreLines.sublist {lines kept : List (List Char)} (h : AreLines lines)
    (hk : List.Sublist kept lines) : AreLines kept := by
  induction h generalizing kept with
  | nil => rw [List.sublist_nil.1 hk]; exact .nil
  | last hs hn =>
    cases hk with
    | cons _ hk => rw [List.sublist_nil.1 hk]; exact .nil
    | cons_cons _ hk => rw [List.sublist_nil.1 hk]; exact .last hs hn
  | cons hn h ih =>
    cases hk with
    | cons _ hk => exact ih hk
    | cons_cons _ hk => exact .cons hn (ih hk)

/-- What is appended to lines that do not end in a line feed belongs to the last of them. -/
theorem AreLines.goOn {lines : List (List Char)} (h : AreLines lines) {c : Char}
    (hl : lines.flatten.getLast? = some c) (hc : c ≠ '\n') :
    ∃ init line, lines = init ++ [line] ∧ line.getLast? = some c ∧
      ∀ e, '\n' ∉ e → AreLines (init ++ [line ++ e ++ ['\n']]) := by
  induction h with
  | nil => cases hl
  | @last s hs hn =>
    refine ⟨[], s, rfl, by simpa using hl, fun e he => ?_⟩
    exact .cons (by simp [hn, he]) .nil
  | @cons s rest hn _ ih =>
    by_cases hr : rest.flatten = []
    · have hlast : (s ++ ['\n']).getLast? = some c := by simpa [hr] using hl
      rw [List.getLast?_concat] at hlast
      exact absurd (Option.some.inj hlast).symm hc
    · rw [List.flatten_cons, List.getLast?_append_of_ne_nil _ hr] at hl
      obtain ⟨init, line, rfl, hline, hgo⟩ := ih hl
      exact ⟨(s ++ ['\n']) :: init, line, rfl, hline, fun e he => .cons hn (hgo e he)⟩

/-- Deleting whole lines leaves the other lines as they are. -/
theorem rawLines_filter (p : List Char → Bool) (s : List Char) :
    rawLines ((rawLines s).filter p).flatten = (rawLines s).filter p :=
  ((areLines_rawLines s).sublist List.filter_sublist).rawLines_flatten

end PluginForge.Chars
