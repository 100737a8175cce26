/-
Removing configured imports, line by line. A configured import is looked for in its two spellings.
Both are texts on one line that begin and end in no blank, and such a text stands alone on a line
just if the line, without its end and the padding around it, is that text. The lines that are left
after imports are removed are those on which no spelling stands alone, as they were.
-/
import PluginForge.Import.Edit
import PluginForge.Proofs.Lines
import PluginForge.Proofs.Marks

namespace PluginForge.Chars

/-! ## Bare lines -/

/-- A text without one `c` at its end. -/
def dropMark (c : Char) (s : List Char) : List Char :=
  if s.getLast? = some c then s.dropLast else s

/-- A line without its end and the padding around it. -/
def bareLine (line : List Char) : List Char :=
  trimEndOf isPadding ((dropMark '\r' (dropMark '\n' line)).dropWhile isPadding)

/-- A text on one line that begins and ends in no blank. -/
structure Tight (s : List Char) : Prop where
  first : ∃ c rest, s = c :: rest ∧ isBlank c = false
  last : ∃ rest c, s = rest ++ [c] ∧ isBlank c = false
  oneLine : '\n' ∉ s

theorem dropMark_concat (c : Char) (s : List Char) : dropMark c (s ++ [c]) = s := by
  unfold dropMark
  rw [List.getLast?_concat, if_pos rfl, List.dropLast_concat]

theorem dropMark_of_ne {c : Char} {s : List Char} (h : s.getLast? ≠ some c) : dropMark c s = s :=
  if_neg h

theorem dropMark_append (c : Char) (s : List Char) :
    ∃ e, (e = [] ∨ e = [c]) ∧ dropMark c s ++ e = s := by
  by_cases h : s.getLast? = some c
  · refine ⟨[c], .inr rfl, ?_⟩
    obtain ⟨rest, rfl⟩ := List.getLast?_eq_some_iff.1 h
    rw [dropMark_concat]
  · exact ⟨[], .inl rfl, by rw [dropMark_of_ne h, List.append_nil]⟩

theorem trimEndOf_append_all {p : Char → Bool} (s : List Char) {t : List Char}
    (ht : t.all p = true) : trimEndOf p (s ++ t) = trimEndOf p s := by
  have hr : ∀ c ∈ t.reverse, p c = true := fun c hc =>
    List.all_eq_true.1 ht c (List.mem_reverse.1 hc)
  unfold trimEndOf
  rw [List.reverse_append, List.dropWhile_append_of_pos hr]

theorem isPadding_eq_false {c : Char} (h : isBlank c = false) : isPadding c = false := by
  rw [Bool.eq_false_iff]
  intro hp
  rcases Bool.or_eq_true_iff.1 hp with he | he <;> rw [eq_of_beq he] at h <;> cases h

namespace Tight

variable {form : List Char}

theorem dropWhile_append (h : Tight form) {p : List Char} (hp : p.all isPadding = true)
    (t : List Char) : (p ++ form ++ t).dropWhile isPadding = form ++ t := by
  obtain ⟨c, rest, rfl, hc⟩ := h.first
  rw [List.append_assoc, List.dropWhile_append_of_pos fun d hd => List.all_eq_true.1 hp d hd]
  simp [isPadding_eq_false hc]

theorem trimEndOf_append (h : Tight form) {q : List Char} (hq : q.all isPadding = true) :
    trimEndOf isPadding (form ++ q) = form := by
  obtain ⟨rest, c, rfl, hc⟩ := h.last
  rw [trimEndOf_append_all _ hq, trimEndOf_concat (isPadding_eq_false hc)]

/-- No carriage return is taken off where a tight text ends, though padding follow it. -/
theorem getLast?_ne (h : Tight form) (p : List Char) {q : List Char} (hq : q.all isPadding = true) :
    (p ++ form ++ q).getLast? ≠ some '\r' := by
  intro hl
  have hb : isBlank '\r' = true ∧ isPadding '\r' = false := by decide
  rcases List.eq_nil_or_concat' q with rfl | ⟨q, d, rfl⟩
  · obtain ⟨rest, c, rfl, hc⟩ := h.last
    rw [List.append_nil, ← List.append_assoc, List.getLast?_concat] at hl
    rw [Option.some.inj hl, hb.1] at hc
    cases hc
  · rw [← List.append_assoc, List.getLast?_concat] at hl
    have hd : isPadding d = true := List.all_eq_true.1 hq d (by simp)
    rw [Option.some.inj hl, hb.2] at hd
    cases hd

end Tight

/-- On a line a text stands alone: there is padding around it at most, and a carriage return. -/
def StandsOn (form line : List Char) : Prop :=
  ∃ p q e, p.all isPadding = true ∧ q.all isPadding = true ∧ (e = [] ∨ e = ['\r']) ∧
    line = p ++ form ++ q ++ e

theorem bareLine_append_feed {line : List Char} (hn : '\n' ∉ line) :
    bareLine (line ++ ['\n']) = bareLine line := by
  have hl : line.getLast? ≠ some '\n' := fun h => hn (List.mem_of_getLast? h)
  unfold bareLine
  rw [dropMark_concat, dropMark_of_ne hl]

/-- A tight text stands alone on a line if and only if the bare line is that text. -/
theorem Tight.standsOn_iff {form line : List Char} (h : Tight form) (hn : '\n' ∉ line) :
    StandsOn form line ↔ bareLine line = form := by
  have hl : line.getLast? ≠ some '\n' := fun h => hn (List.mem_of_getLast? h)
  unfold bareLine
  rw [dropMark_of_ne hl]
  constructor
  · rintro ⟨p, q, e, hp, hq, he, rfl⟩
    have hd : dropMark '\r' (p ++ form ++ q ++ e) = p ++ form ++ q := by
      rcases he with rfl | rfl
      · rw [List.append_nil, dropMark_of_ne (h.getLast?_ne p hq)]
      · exact dropMark_concat _ _
    rw [hd, h.dropWhile_append hp, h.trimEndOf_append hq]
  · intro hb
    obtain ⟨e, he, hline⟩ := dropMark_append '\r' line
    obtain ⟨q, hq, htrim⟩ := Chars.trimEndOf_append isPadding
      ((dropMark '\r' line).dropWhile isPadding)
    have hp : ((dropMark '\r' line).takeWhile isPadding).all isPadding = true := List.all_takeWhile
    refine ⟨_, q, e, hp, hq, he, ?_⟩
    calc line
        = dropMark '\r' line ++ e := hline.symm
      _ = (dropMark '\r' line).takeWhile isPadding ++
            (dropMark '\r' line).dropWhile isPadding ++ e := by
          rw [List.takeWhile_append_dropWhile]
      _ = (dropMark '\r' line).takeWhile isPadding ++ form ++ q ++ e := by
          rw [← htrim, hb, List.append_assoc _ form q]

/-! ## Trimmed texts -/

theorem Tight.trimmed {s : List Char} (h : Tight s) : Trimmed s :=
  ⟨h.first, h.last⟩

theorem tight_trim {s : List Char} (h : trim s ≠ []) (hn : '\n' ∉ trim s) : Tight (trim s) where
  first := (trimmed_trim h).first
  last := (trimmed_trim h).last
  oneLine := hn

theorem trim_of_tight {s : List Char} (h : Tight s) : trim s = s :=
  h.trimmed.trim_eq

theorem trim_ne_nil {s : List Char} (h : s.all isBlank = false) : trim s ≠ [] := by
  intro ht
  obtain ⟨t, hb, he⟩ := trimEndOf_append isBlank (trimStart s)
  have hs : trimStart s = t := by
    rw [← he, show trimEndOf isBlank (trimStart s) = [] from ht, List.nil_append]
  cases t with
  | nil =>
    have hall : s.all isBlank = true :=
      List.all_eq_true.2 (List.dropWhile_eq_nil_iff.1 hs)
    rw [h] at hall
    cases hall
  | cons c t =>
    have hc : isBlank c = true := List.all_eq_true.1 hb c List.mem_cons_self
    rw [eq_false_of_dropWhile_eq_cons hs] at hc
    cases hc

theorem all_isBlank_eq_false {s : List Char} (h : trim s ≠ []) : s.all isBlank = false := by
  by_contra hb
  rw [Bool.not_eq_false, List.all_eq_true] at hb
  exact h (by rw [trim, trimStart, List.dropWhile_eq_nil_iff.2 hb]; rfl)

end PluginForge.Chars

namespace PluginForge.Import

open Chars

/-! ## Looking for a line -/

/-- A text without the carriage return that it may start with. -/
def dropReturn : List Char → List Char
  | '\r' :: r => r
  | r => r

theorem dropReturn_of_ne {c : Char} (hc : c ≠ '\r') (r : List Char) :
    dropReturn (c :: r) = c :: r := by
  unfold dropReturn
  split
  · rename_i h
    exact absurd (List.cons.inj h).1 hc
  · rfl

theorem dropReturn_append_feed (r t : List Char) :
    dropReturn (r ++ '\n' :: t) = dropReturn r ++ '\n' :: t := by
  cases r with
  | nil => rfl
  | cons c r =>
    by_cases hc : c = '\r'
    · subst hc
      rfl
    · rw [List.cons_append, dropReturn_of_ne hc, dropReturn_of_ne hc, List.cons_append]

theorem dropReturn_suffix (r : List Char) : dropReturn r <:+ r := by
  unfold dropReturn
  split
  · exact List.suffix_cons _ _
  · exact List.suffix_refl _

theorem dropReturn_eq_nil {r : List Char} : dropReturn r = [] ↔ r = [] ∨ r = ['\r'] := by
  unfold dropReturn
  split
  · simp
  · rename_i hr
    exact ⟨.inl, fun h => h.elim id fun he => absurd he (hr [])⟩

theorem afterForm?_eq (form s : List Char) :
    afterForm? form s = (after? form (s.dropWhile isPadding)).map fun r =>
      dropReturn (r.dropWhile isPadding) := by
  unfold afterForm?
  cases after? form (s.dropWhile isPadding) with
  | none => rfl
  | some r =>
    simp only [Option.bind_eq_bind, Option.bind_some, Option.map_some]
    unfold dropReturn
    split <;> simp_all

theorem dropPadding_append_feed (s t : List Char) :
    (s ++ '\n' :: t).dropWhile isPadding = s.dropWhile isPadding ++ '\n' :: t := by
  have hfeed : isPadding '\n' = false := by decide
  induction s with
  | nil => simp [hfeed]
  | cons c s ih => cases hc : isPadding c <;> simp [hc, ih]

section

variable {form line : List Char}

theorem afterForm?_suffix {s r : List Char} (h : afterForm? form s = some r) : r <:+ s := by
  rw [afterForm?_eq, Option.map_eq_some_iff] at h
  obtain ⟨t, ht, rfl⟩ := h
  have hs : t <:+ s.dropWhile isPadding := ⟨form, (after?_eq_some_iff.1 ht).symm⟩
  have hd : t.dropWhile isPadding <:+ s :=
    (List.dropWhile_suffix _).trans (hs.trans (List.dropWhile_suffix _))
  exact (dropReturn_suffix _).trans hd

/-- What follows the line feed has no part in whether a form stands in front of it. -/
theorem afterForm?_append (hf : '\n' ∉ form) (line t : List Char) :
    afterForm? form (line ++ '\n' :: t) = (afterForm? form line).map (· ++ '\n' :: t) := by
  rw [afterForm?_eq, afterForm?_eq, dropPadding_append_feed, after?_append hf, Option.map_map,
    Option.map_map]
  congr 1
  funext r
  simp only [Function.comp_apply, dropPadding_append_feed, dropReturn_append_feed]

/-- Nothing follows a form on its line just if the bare line is the form. -/
theorem afterForm?_eq_nil_iff (hf : Tight form) (hn : '\n' ∉ line) :
    afterForm? form line = some [] ↔ bareLine line = form := by
  rw [← hf.standsOn_iff hn, afterForm?_eq, Option.map_eq_some_iff]
  constructor
  · rintro ⟨r, hr, he⟩
    refine ⟨line.takeWhile isPadding, r.takeWhile isPadding, r.dropWhile isPadding,
      List.all_takeWhile, List.all_takeWhile, dropReturn_eq_nil.1 he, ?_⟩
    calc line
        = line.takeWhile isPadding ++ line.dropWhile isPadding :=
          List.takeWhile_append_dropWhile.symm
      _ = line.takeWhile isPadding ++ (form ++ r) := by rw [after?_eq_some_iff.1 hr]
      _ = line.takeWhile isPadding ++
            (form ++ (r.takeWhile isPadding ++ r.dropWhile isPadding)) := by
          rw [List.takeWhile_append_dropWhile]
      _ = _ := by simp only [List.append_assoc]
  · rintro ⟨p, q, e, hp, hq, he, rfl⟩
    refine ⟨q ++ e, ?_, ?_⟩
    · rw [after?_eq_some_iff, List.append_assoc _ q e, hf.dropWhile_append hp]
    · rw [List.dropWhile_append_of_pos fun c hc => List.all_eq_true.1 hq c hc]
      rcases he with rfl | rfl <;> rfl

/-- What follows a form on its line does not begin with a line feed. -/
theorem ne_feed_of_afterForm? (hn : '\n' ∉ line) {c : Char} {r : List Char}
    (h : afterForm? form line = some (c :: r)) : c ≠ '\n' := by
  rintro rfl
  exact hn ((afterForm?_suffix h).subset List.mem_cons_self)

/-- A form stands alone on a line, or it does not stand in front, or something other than a line feed
follows it. -/
theorem afterForm?_cases (hf : Tight form) (hn : '\n' ∉ line) :
    bareLine line = form ∧ afterForm? form line = some [] ∨
      bareLine line ≠ form ∧ (afterForm? form line = none ∨
        ∃ c r, afterForm? form line = some (c :: r) ∧ c ≠ '\n') := by
  by_cases hb : bareLine line = form
  · exact .inl ⟨hb, (afterForm?_eq_nil_iff hf hn).2 hb⟩
  · refine .inr ⟨hb, ?_⟩
    cases h : afterForm? form line with
    | none => exact .inl rfl
    | some r =>
      cases r with
      | nil => exact absurd ((afterForm?_eq_nil_iff hf hn).1 h) hb
      | cons c r => exact .inr ⟨c, r, rfl, ne_feed_of_afterForm? hn h⟩

theorem afterLine?_append (hf : Tight form) (hn : '\n' ∉ line) (t : List Char) :
    afterLine? form (line ++ '\n' :: t) = if bareLine line = form then some t else none := by
  unfold afterLine?
  rw [afterForm?_append hf.oneLine]
  rcases afterForm?_cases hf hn with ⟨hb, h⟩ | ⟨hb, h | ⟨c, r, h, hc⟩⟩
  · rw [h, if_pos hb]
    rfl
  · rw [h, if_neg hb]
    rfl
  · rw [h, if_neg hb]
    simp [hc]

theorem afterLine?_last (hn : '\n' ∉ line) : afterLine? form line = none := by
  unfold afterLine?
  split
  · rename_i r h
    exact absurd rfl (ne_feed_of_afterForm? hn h)
  · rfl

theorem afterLastLine?_append (hf : Tight form) (hn : '\n' ∉ line) (hb : bareLine line ≠ form)
    (t : List Char) : afterLastLine? form (line ++ '\n' :: t) = none := by
  unfold afterLastLine?
  rw [afterForm?_append hf.oneLine]
  rcases afterForm?_cases hf hn with ⟨hb', -⟩ | ⟨-, h | ⟨c, r, h, hc⟩⟩
  · exact absurd hb' hb
  · rw [h]
    rfl
  · rw [h]
    simp [hc]

theorem afterLastLine?_last (hf : Tight form) (hn : '\n' ∉ line) :
    afterLastLine? form line = if bareLine line = form then some [] else none := by
  unfold afterLastLine?
  rcases afterForm?_cases hf hn with ⟨hb, h⟩ | ⟨hb, h | ⟨c, r, h, hc⟩⟩
  · rw [h, if_pos hb]
  · rw [h, if_neg hb]
  · rw [h, if_neg hb]
    simp [hc]

end

/-! ## Deleting lines -/

section

variable {rest? : List Char → Option (List Char)} {fuel : Nat} {kept line : List Char}

/-- Nothing is deleted before the next line starts. -/
theorem deleteFrom_skip (hn : '\n' ∉ line) (t : List Char) :
    deleteFrom rest? (fuel + line.length) false kept (line ++ t) =
      deleteFrom rest? fuel false (line.reverse ++ kept) t := by
  induction line generalizing kept with
  | nil => rfl
  | cons c line ih =>
    rw [List.mem_cons, not_or] at hn
    have hc : (c == '\n') = false := beq_eq_false_iff_ne.2 (Ne.symm hn.1)
    rw [List.length_cons, ← Nat.add_assoc, List.cons_append, deleteFrom]
    simp only [Bool.false_eq_true, if_false, hc]
    rw [ih hn.2, List.reverse_cons, List.append_assoc, List.singleton_append]

/-- A stretch that is found where a line starts is deleted. -/
theorem deleteFrom_hit {c : Char} {s r : List Char} (h : rest? (c :: s) = some r) :
    deleteFrom rest? (fuel + 1) true kept (c :: s) = deleteFrom rest? fuel true kept r := by
  rw [deleteFrom, if_pos rfl, h]

/-- A line on which none is found is kept. -/
theorem deleteFrom_miss (hn : '\n' ∉ line) {t : List Char}
    (h : rest? (line ++ '\n' :: t) = none) :
    deleteFrom rest? (fuel + (line.length + 1)) true kept (line ++ '\n' :: t) =
      deleteFrom rest? fuel true ('\n' :: line.reverse ++ kept) t := by
  cases line with
  | nil =>
    rw [List.nil_append] at h
    rw [List.length_nil, Nat.zero_add, List.nil_append, deleteFrom, if_pos rfl, h]
    rfl
  | cons c line =>
    rw [List.mem_cons, not_or] at hn
    have hc : (c == '\n') = false := beq_eq_false_iff_ne.2 (Ne.symm hn.1)
    have hlen : fuel + ((c :: line).length + 1) = (fuel + 1) + line.length + 1 := by
      rw [List.length_cons]
      omega
    rw [List.cons_append] at h
    rw [hlen, List.cons_append, deleteFrom, if_pos rfl, h]
    simp only [hc]
    rw [deleteFrom_skip hn.2, deleteFrom]
    simp

/-- A last line without line feed on which none is found is kept. -/
theorem deleteFrom_miss_last (hn : '\n' ∉ line) (h : rest? line = none)
    (hfuel : line.length ≤ fuel) : deleteFrom rest? fuel true kept line = kept.reverse ++ line := by
  cases line with
  | nil => cases fuel <;> simp [deleteFrom]
  | cons c line =>
    rw [List.mem_cons, not_or] at hn
    have hc : (c == '\n') = false := beq_eq_false_iff_ne.2 (Ne.symm hn.1)
    obtain ⟨m, rfl⟩ : ∃ m, fuel = m + line.length + 1 := by
      rw [List.length_cons] at hfuel
      exact ⟨fuel - line.length - 1, by omega⟩
    have hskip := @deleteFrom_skip rest? m (c :: kept) line hn.2 []
    rw [List.append_nil] at hskip
    rw [deleteFrom, if_pos rfl, h]
    simp only [hc]
    rw [hskip]
    cases m <;> simp [deleteFrom]

/-- Where one of these lines starts, `rest?` finds just that line if `hit` holds of it, and nothing
otherwise. -/
structure FindsLines (rest? : List Char → Option (List Char)) (hit : List Char → Bool)
    (lines : List (List Char)) : Prop where
  ended : ∀ line, line ++ ['\n'] ∈ lines → '\n' ∉ line → ∀ t,
    rest? (line ++ '\n' :: t) = if hit (line ++ ['\n']) then some t else none
  last : ∀ line ∈ lines, '\n' ∉ line → rest? line = if hit line then some [] else none

variable {hit : List Char → Bool} {lines : List (List Char)}

theorem FindsLines.tail (h : FindsLines rest? hit (line :: lines)) : FindsLines rest? hit lines where
  ended l hl := h.ended l (List.mem_cons_of_mem _ hl)
  last l hl := h.last l (List.mem_cons_of_mem _ hl)

/-- Going through lines keeps those that are not found. Each line uses up no more fuel than its own
length. -/
theorem deleteFrom_flatten (h : AreLines lines) (hf : FindsLines rest? hit lines)
    (hfuel : lines.flatten.length ≤ fuel) :
    deleteFrom rest? fuel true kept lines.flatten =
      kept.reverse ++ (lines.filter (! hit ·)).flatten := by
  induction h generalizing fuel kept with
  | nil => cases fuel <;> simp [deleteFrom]
  | @last s hs hn =>
    have hr := hf.last s List.mem_cons_self hn
    simp only [List.flatten_cons, List.flatten_nil, List.append_nil] at hfuel ⊢
    cases hh : hit s with
    | false =>
      rw [hh] at hr
      rw [deleteFrom_miss_last hn hr hfuel]
      simp [hh]
    | true =>
      rw [hh] at hr
      obtain ⟨c, s, rfl⟩ := List.exists_cons_of_ne_nil hs
      obtain ⟨m, rfl⟩ := Nat.exists_eq_add_of_le' (Nat.le_trans (Nat.succ_pos _) hfuel)
      rw [deleteFrom_hit hr]
      cases m <;> simp [deleteFrom, hh]
  | @cons s rest hn _ ih =>
    have hr := hf.ended s List.mem_cons_self hn rest.flatten
    have hflat : ((s ++ ['\n']) :: rest).flatten = s ++ '\n' :: rest.flatten := by simp
    rw [hflat] at hfuel ⊢
    rw [List.length_append, List.length_cons] at hfuel
    cases hh : hit (s ++ ['\n']) with
    | false =>
      rw [hh] at hr
      obtain ⟨m, rfl⟩ : ∃ m, fuel = m + (s.length + 1) := ⟨fuel - (s.length + 1), by omega⟩
      rw [deleteFrom_miss hn hr, ih hf.tail (by omega)]
      simp [hh]
    | true =>
      rw [hh] at hr
      obtain ⟨c, t, ht⟩ : ∃ c t, s ++ '\n' :: rest.flatten = c :: t := by
        cases s <;> exact ⟨_, _, rfl⟩
      obtain ⟨m, rfl⟩ : ∃ m, fuel = m + 1 := ⟨fuel - 1, by omega⟩
      rw [ht] at hr ⊢
      rw [deleteFrom_hit hr, ih hf.tail (by omega)]
      simp [hh]

/-- The lines that are found go. -/
theorem FindsLines.delete (hf : FindsLines rest? hit lines) (h : AreLines lines) :
    deleteAtLineStarts rest? lines.flatten = (lines.filter (! hit ·)).flatten :=
  deleteFrom_flatten h hf (Nat.le_refl _)

end

/-- Whether a form stands alone on a line that ends in a line feed. -/
def endsForm (form line : List Char) : Bool :=
  decide ('\n' ∈ line) && decide (bareLine line = form)

section

variable {form : List Char} (hf : Tight form)

include hf

/-- First the lines on which the form stands alone go, but for a last one without line feed. -/
theorem deleteAtLineStarts_afterLine? (s : List Char) :
    deleteAtLineStarts (afterLine? form) s =
      ((rawLines s).filter (! endsForm form ·)).flatten := by
  have hfind : FindsLines (afterLine? form) (endsForm form) (rawLines s) := by
    refine ⟨fun line _ hn t => ?_, fun line _ hn => ?_⟩
    · rw [afterLine?_append hf hn]
      simp [endsForm, bareLine_append_feed hn]
    · rw [afterLine?_last hn]
      simp [endsForm, hn]
  conv_lhs => rw [← flatten_rawLines s]
  exact hfind.delete (areLines_rawLines s)

/-- Then that one goes. -/
theorem deleteAtLineStarts_afterLastLine? {lines : List (List Char)} (h : AreLines lines)
    (hgone : ∀ line ∈ lines, endsForm form line = false) :
    deleteAtLineStarts (afterLastLine? form) lines.flatten =
      (lines.filter fun line => ! decide (bareLine line = form)).flatten := by
  have hfind : FindsLines (afterLastLine? form) (fun line => decide (bareLine line = form))
      lines := by
    refine ⟨fun line hm hn t => ?_, fun line _ hn => ?_⟩
    · have hb : bareLine line ≠ form := by
        simpa [endsForm, bareLine_append_feed hn] using hgone _ hm
      rw [afterLastLine?_append hf hn hb, bareLine_append_feed hn]
      simp [hb]
    · rw [afterLastLine?_last hf hn]
      simp
  exact hfind.delete h

/-- The lines that are left when a form is deleted are those on which it does not stand alone, as
they were. -/
theorem rawLines_deleteForm (s : List Char) :
    rawLines (deleteForm form s) = (rawLines s).filter fun line => bareLine line ≠ form := by
  have hlines := (areLines_rawLines s).sublist
    (List.filter_sublist (p := (! endsForm form ·)))
  have hgone : ∀ line ∈ (rawLines s).filter (! endsForm form ·), endsForm form line = false :=
    fun line hm => by simpa using (List.mem_filter.1 hm).2
  rw [deleteForm, deleteAtLineStarts_afterLine? hf,
    deleteAtLineStarts_afterLastLine? hf hlines hgone,
    (hlines.sublist List.filter_sublist).rawLines_flatten, List.filter_filter]
  refine List.filter_congr fun line _ => ?_
  by_cases hb : bareLine line = form <;> simp [endsForm, hb]

end

/-! ## Spellings -/

/-- A statement is taken as it stands or put together. -/
theorem statement_cases (text : String) :
    (∃ t, (statement text).toList = trim text.toList ∧ trim text.toList = "using ".toList ++ t ∧
        (trim text.toList).getLast? = some ';') ∨
      (statement text).toList =
        'u' :: "sing ".toList ++ trim (trimEndOf (· == ';') (trim text.toList)) ++ [';'] := by
  unfold statement
  dsimp only
  split
  · rename_i hs
    rw [Bool.and_eq_true, List.isPrefixOf_iff_prefix, decide_eq_true_eq] at hs
    obtain ⟨⟨t, ht⟩, hl⟩ := hs
    exact .inl ⟨t, String.toList_ofList, ht.symm, hl⟩
  · exact .inr (by simp)

theorem statement_eq_cons (text : String) : ∃ s, (statement text).toList = 'u' :: s := by
  rcases statement_cases text with ⟨t, hs, ht, -⟩ | hs
  · exact ⟨"sing ".toList ++ t, by rw [hs, ht]; rfl⟩
  · exact ⟨_, hs⟩

theorem statement_eq_concat (text : String) : ∃ s, (statement text).toList = s ++ [';'] := by
  rcases statement_cases text with ⟨_, hs, -, hl⟩ | hs
  · rw [hs]
    exact List.getLast?_eq_some_iff.1 hl
  · exact ⟨_, hs⟩

/-- A statement is a text on one line if what it was made from is, between blanks. -/
theorem tight_statement {text : String} (hn : '\n' ∉ trim text.toList) :
    Tight (statement text).toList where
  first := by
    obtain ⟨s, hs⟩ := statement_eq_cons text
    exact ⟨'u', s, hs, by decide⟩
  last := by
    obtain ⟨s, hs⟩ := statement_eq_concat text
    exact ⟨s, ';', hs, by decide⟩
  oneLine := by
    rcases statement_cases text with ⟨_, hs, -⟩ | hs
    · rwa [hs]
    · have hm : '\n' ∉ 'u' :: "sing ".toList ∧ '\n' ∉ [';'] := by decide
      rw [hs, List.mem_append, List.mem_append, not_or, not_or]
      exact ⟨⟨hm.1, fun h => hn (trimEndOf_subset _ _ (mem_of_mem_trim h))⟩, hm.2⟩

/-- An import says something on one line: between its blanks there is a text without line feed. -/
def SingleLine (entry : String) : Prop :=
  '\n' ∉ (Text.trim entry).toList

instance (entry : String) : Decidable (SingleLine entry) :=
  inferInstanceAs (Decidable (_ ∉ _))

theorem mem_tokens {removed : List String} {token : String} :
    token ∈ tokens removed ↔ (∃ r ∈ removed, Text.trim r = token) ∧ token ≠ "" := by
  simp [tokens]

theorem tight_of_mem_forms {removed : List String} (hs : ∀ r ∈ removed, SingleLine r)
    {token form : String} (ht : token ∈ tokens removed) (hf : form ∈ forms token) :
    Tight form.toList := by
  obtain ⟨⟨r, hr, rfl⟩, hne⟩ := mem_tokens.1 ht
  have hn : '\n' ∉ trim r.toList := by simpa [SingleLine, Text.trim] using hs r hr
  have hne : trim r.toList ≠ [] := by
    intro he
    rw [Text.trim, he] at hne
    exact hne String.ofList_nil
  have htoken : Tight (Text.trim r).toList := by
    rw [Text.trim, String.toList_ofList]
    exact tight_trim hne hn
  have hstatement : Tight (statement (Text.trim r)).toList :=
    tight_statement (by rw [trim_of_tight htoken]; exact hs r hr)
  unfold forms at hf
  split at hf
  · rw [List.mem_singleton.1 hf]
    exact htoken
  · simp only [List.mem_cons, List.not_mem_nil, or_false] at hf
    rcases hf with he | he
    · rw [he]
      exact htoken
    · rw [he]
      exact hstatement

/-- The spellings of the configured imports. -/
def spellings (removed : List String) : List String :=
  (tokens removed).flatMap forms

theorem rawLines_deleteForms {fs : List String} (hf : ∀ form ∈ fs, Tight form.toList)
    (s : List Char) :
    rawLines (fs.foldl (fun s form => deleteForm form.toList s) s) =
      (rawLines s).filter fun line => ∀ form ∈ fs, bareLine line ≠ form.toList := by
  induction fs generalizing s with
  | nil => simp
  | cons form fs ih =>
    rw [List.forall_mem_cons] at hf
    rw [List.foldl_cons, ih hf.2, rawLines_deleteForm hf.1, List.filter_filter]
    refine List.filter_congr fun line _ => ?_
    simp [Bool.and_comm]

/-- The lines that are left when imports are removed are those on which no spelling of them stands
alone, as they were. -/
theorem rawLines_strip {removed : List String} (hs : ∀ r ∈ removed, SingleLine r) (text : String) :
    rawLines (strip text removed).toList =
      (rawLines text.toList).filter fun line =>
        ∀ form ∈ spellings removed, bareLine line ≠ form.toList := by
  have htight : ∀ form ∈ spellings removed, Tight form.toList := by
    intro form hf
    obtain ⟨token, ht, hf⟩ := List.mem_flatMap.1 hf
    exact tight_of_mem_forms hs ht hf
  rw [strip, String.toList_ofList]
  exact rawLines_deleteForms htight _

end PluginForge.Import
