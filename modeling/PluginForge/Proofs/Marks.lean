/-
Trimming, words and cuts at a mark that stands in the text: what comes before the mark is treated as
if it stood alone, and what comes after it is carried along.
-/
import Mathlib.Data.List.TakeDrop
import Mathlib.Data.List.TakeWhile
import PluginForge.Text.Chars

namespace PluginForge.Chars

theorem trimStart_append {c : Char} (hc : isBlank c = false) (a b : List Char) :
    trimStart (a ++ c :: b) = trimStart a ++ c :: b := by
  induction a with
  | nil => simp [trimStart, hc]
  | cons d a ih =>
    cases hd : isBlank d with
    | true => simpa [trimStart, hd] using ih
    | false => simp [trimStart, hd]

/-- What is trimmed off the end. -/
theorem trimEndOf_append (p : Char → Bool) (s : List Char) :
    ∃ t, t.all p = true ∧ trimEndOf p s ++ t = s := by
  refine ⟨(s.reverse.takeWhile p).reverse, ?_, ?_⟩
  · rw [List.all_reverse, List.all_takeWhile]
  · rw [trimEndOf, ← List.reverse_append, List.takeWhile_append_dropWhile, List.reverse_reverse]

theorem trimEndOf_subset (p : Char → Bool) (s : List Char) : trimEndOf p s ⊆ s := by
  obtain ⟨t, -, he⟩ := trimEndOf_append p s
  intro c hc
  rw [← he]
  exact List.mem_append_left t hc

theorem mem_of_mem_trim {c : Char} {s : List Char} (h : c ∈ trim s) : c ∈ s :=
  (List.dropWhile_suffix _).subset (trimEndOf_subset _ _ h)

theorem eq_false_of_dropWhile_eq_cons {p : Char → Bool} {s r : List Char} {c : Char}
    (h : s.dropWhile p = c :: r) : p c = false := by
  have hd := List.head?_dropWhile_not p s
  rw [h] at hd
  exact hd

theorem trimEndOf_concat {p : Char → Bool} {c : Char} (hc : p c = false) (s : List Char) :
    trimEndOf p (s ++ [c]) = s ++ [c] := by
  simp [trimEndOf, hc]

/-- A text that begins and ends in no blank. -/
structure Trimmed (s : List Char) : Prop where
  first : ∃ c rest, s = c :: rest ∧ isBlank c = false
  last : ∃ rest c, s = rest ++ [c] ∧ isBlank c = false

theorem trimmed_trim {s : List Char} (h : trim s ≠ []) : Trimmed (trim s) where
  first := by
    obtain ⟨c, r, hc⟩ := List.exists_cons_of_ne_nil h
    obtain ⟨t, -, ht⟩ := trimEndOf_append isBlank (trimStart s)
    refine ⟨c, r, hc, ?_⟩
    have hs : s.dropWhile isBlank = c :: (r ++ t) := by
      rw [← List.cons_append, ← hc]
      exact ht.symm
    exact eq_false_of_dropWhile_eq_cons hs
  last := by
    have hr : (trim s).reverse = (trimStart s).reverse.dropWhile isBlank := List.reverse_reverse _
    obtain ⟨c, r, hc⟩ := List.exists_cons_of_ne_nil (mt List.reverse_eq_nil_iff.1 h)
    refine ⟨r.reverse, c, ?_, eq_false_of_dropWhile_eq_cons (hr.symm.trans hc)⟩
    rw [← List.reverse_reverse (trim s), hc, List.reverse_cons]

namespace Trimmed

variable {s : List Char}

theorem ne_nil (h : Trimmed s) : s ≠ [] := by
  obtain ⟨c, r, rfl, -⟩ := h.first
  exact List.cons_ne_nil c r

theorem trim_eq (h : Trimmed s) : trim s = s := by
  have hs : trimStart s = s := by
    obtain ⟨c, r, rfl, hc⟩ := h.first
    simp [trimStart, hc]
  obtain ⟨r, c, he, hc⟩ := h.last
  rw [trim, hs, trimEnd, he, trimEndOf_concat hc]

theorem map {f : Char → Char} (hf : ∀ c, isBlank c = false → isBlank (f c) = false)
    (h : Trimmed s) : Trimmed (s.map f) where
  first := by
    obtain ⟨c, r, rfl, hc⟩ := h.first
    exact ⟨f c, r.map f, List.map_cons, hf c hc⟩
  last := by
    obtain ⟨r, c, rfl, hc⟩ := h.last
    exact ⟨r.map f, f c, List.map_append, hf c hc⟩

end Trimmed

/-- A line is its content and its end. -/
theorem lineContent_append (line : List Char) :
    ∃ t, t.all isBlank = true ∧ lineContent line ++ t = line := by
  unfold lineContent
  split
  · rename_i r h
    exact ⟨['\r', '\n'], by decide, by rw [← List.reverse_reverse line, h]; simp⟩
  · rename_i r _ h
    exact ⟨['\n'], by decide, by rw [← List.reverse_reverse line, h]; simp⟩
  · exact ⟨[], rfl, List.append_nil _⟩

theorem after?_append {c : Char} {w : List Char} (hw : c ∉ w) (a b : List Char) :
    after? w (a ++ c :: b) = (after? w a).map (· ++ c :: b) := by
  induction w generalizing a with
  | nil => simp [after?]
  | cons d w ih =>
    simp only [List.mem_cons, not_or] at hw
    cases a with
    | nil => simp [after?, Ne.symm hw.1]
    | cons e a =>
      by_cases he : d = e
      · simp [after?, he, ih hw.2]
      · simp [after?, he]

theorem afterWord?_append {c : Char} {w : List Char} (hc : isBlank c = false) (hw : c ∉ w)
    (a b : List Char) : afterWord? w (a ++ c :: b) = (afterWord? w a).map (· ++ c :: b) := by
  unfold afterWord?
  rw [after?_append hw]
  cases after? w a with
  | none => rfl
  | some r =>
    cases r with
    | nil => simp [hc]
    | cons d r =>
      cases hd : isBlank d with
      | true => simp [hd, trimStart_append hc]
      | false => simp [hd]

theorem afterWord?_suffix {w s r : List Char} (h : afterWord? w s = some r) : r <:+ s := by
  unfold afterWord? at h
  split at h
  · rename_i d t ht
    split at h
    · cases h
      have hs := after?_eq_some_iff.1 ht
      exact (List.dropWhile_suffix isBlank).trans ⟨w ++ [d], by simp [hs]⟩
    · cases h
  · cases h

theorem span_append {c : Char} {a : List Char} (ha : c ∉ a) (b : List Char) :
    (a ++ c :: b).span (· ≠ c) = (a, c :: b) := by
  have hp : ∀ d ∈ a, decide (d ≠ c) = true := fun d hd =>
    decide_eq_true fun (e : d = c) => ha (e ▸ hd)
  rw [List.span_eq_takeWhile_dropWhile, List.takeWhile_append_of_pos hp,
    List.dropWhile_append_of_pos hp]
  simp

theorem cut?_append {c : Char} {a : List Char} (ha : c ∉ a) (b : List Char) :
    cut? c (a ++ c :: b) = some (a, b) := by
  rw [cut?, span_append ha]

theorem cut?_eq_none {c : Char} {s : List Char} (h : c ∉ s) : cut? c s = none := by
  have hp : ∀ d ∈ s, decide (d ≠ c) = true := fun d hd =>
    decide_eq_true fun (e : d = c) => h (e ▸ hd)
  rw [cut?, List.span_eq_takeWhile_dropWhile, List.dropWhile_eq_nil_iff.2 hp]

theorem eq_append_of_cut? {c : Char} {s a b : List Char} (h : cut? c s = some (a, b)) :
    c ∉ a ∧ s = a ++ c :: b := by
  unfold cut? at h
  rw [List.span_eq_takeWhile_dropWhile] at h
  split at h
  · rename_i before d rest he
    cases h
    obtain ⟨rfl, hd⟩ := Prod.mk.inj he
    obtain rfl : d = c := by simpa using eq_false_of_dropWhile_eq_cons hd
    refine ⟨fun hm => ?_, ?_⟩
    · simpa using List.mem_takeWhile_imp hm
    · rw [← hd, List.takeWhile_append_dropWhile]
  · cases h

theorem cutLast?_append {c : Char} {b : List Char} (hb : c ∉ b) (a : List Char) :
    cutLast? c (a ++ c :: b) = some (a, b) := by
  have turned : (a ++ c :: b).reverse = b.reverse ++ c :: a.reverse := by simp
  rw [cutLast?, turned, cut?_append (by simpa using hb)]
  simp

theorem cutLast?_eq_none {c : Char} {s : List Char} (h : c ∉ s) : cutLast? c s = none := by
  rw [cutLast?, cut?_eq_none (by simpa using h)]
  rfl

theorem exists_last_split {c : Char} {s : List Char} (h : c ∈ s) :
    ∃ a b, s = a ++ c :: b ∧ c ∉ b := by
  obtain ⟨b, a, split, hb⟩ := List.eq_append_cons_of_mem (List.mem_reverse.2 h)
  refine ⟨a.reverse, b.reverse, ?_, by simpa using hb⟩
  rw [← List.reverse_reverse s, split]
  simp

/-- A mark between two parts shows where the first one ends, if it does not occur both in the first
part of one text and in the second part of the other. -/
theorem append_cons_inj {α : Type} {c : α} {a b a' b' : List α} (h : a ++ c :: b = a' ++ c :: b')
    (hc : c ∈ a → c ∉ b') (hc' : c ∈ a' → c ∉ b) : a = a' ∧ b = b' := by
  rcases List.append_eq_append_iff.1 h with ⟨zs, ha, hb⟩ | ⟨zs, ha, hb⟩
  · cases zs with
    | nil => exact ⟨by rw [ha, List.append_nil], (List.cons.inj hb).2⟩
    | cons z zs =>
      obtain ⟨rfl, rfl⟩ := List.cons.inj hb
      exact absurd (List.mem_append_right zs List.mem_cons_self) (hc' (by simp [ha]))
  · cases zs with
    | nil => exact ⟨by rw [ha, List.append_nil], (List.cons.inj hb).2.symm⟩
    | cons z zs =>
      obtain ⟨rfl, rfl⟩ := List.cons.inj hb
      exact absurd (List.mem_append_right zs List.mem_cons_self) (hc (by simp [ha]))

end PluginForge.Chars
