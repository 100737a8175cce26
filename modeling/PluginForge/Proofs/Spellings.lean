/-
How directives are spelled. A line that holds a directive is, but for the blanks around it, what
`Directive.spell` writes for that directive and some blanks between its parts.

`Import.target` and `Import.statement` look at such a line without reading it as a directive. They
know a word by the one space behind it, and an alias by the first equals sign. So what they find is
compared with the directive here: where they agree with it, and where they do not.
-/
import PluginForge.Proofs.DefaultImports
import PluginForge.Proofs.LineDeletion

namespace PluginForge

namespace Chars

/-! ## Blanks between words -/

/-- The blanks between two words. -/
structure IsGap (gap : List Char) : Prop where
  ne_nil : gap ≠ []
  blank : gap.all isBlank = true

/-- A text that does not begin with a blank. -/
def StartsSolid (s : List Char) : Prop :=
  ∃ c r, s = c :: r ∧ isBlank c = false

theorem StartsSolid.append {s : List Char} (h : StartsSolid s) (t : List Char) :
    StartsSolid (s ++ t) := by
  obtain ⟨c, r, rfl, hc⟩ := h
  exact ⟨c, r ++ t, rfl, hc⟩

theorem StartsSolid.trimStart_append {s gap : List Char} (h : StartsSolid s)
    (hg : gap.all isBlank = true) : trimStart (gap ++ s) = s := by
  obtain ⟨c, r, rfl, hc⟩ := h
  rw [trimStart, List.dropWhile_append_of_pos fun d hd => List.all_eq_true.1 hg d hd]
  simp [hc]

theorem takeWhile_append_trimStart (s : List Char) : s.takeWhile isBlank ++ trimStart s = s :=
  List.takeWhile_append_dropWhile

theorem trim_blanks_append {t : List Char} (ht : t.all isBlank = true) (s : List Char) :
    trim (t ++ s) = trim s := by
  rw [trim, trim, trimStart, trimStart,
    List.dropWhile_append_of_pos fun c hc => List.all_eq_true.1 ht c hc]

theorem length_trim_le (s : List Char) : (trim s).length ≤ s.length := by
  obtain ⟨t, -, he⟩ := trimEndOf_append isBlank (trimStart s)
  have front : (trimStart s).length ≤ s.length := (List.dropWhile_suffix _).length_le
  rw [← he, List.length_append] at front
  exact Nat.le_trans (Nat.le_add_right _ _) front

theorem trimEndOf_eq_self {p : Char → Bool} {s : List Char} (h : ∀ c ∈ s, p c = false) :
    trimEndOf p s = s := by
  rcases List.eq_nil_or_concat' s with rfl | ⟨r, c, rfl⟩
  · rfl
  · exact trimEndOf_concat (h c (by simp)) r

theorem eq_false_of_trimEndOf_eq_concat {p : Char → Bool} {s r : List Char} {c : Char}
    (h : trimEndOf p s = r ++ [c]) : p c = false := by
  have front : s.reverse.dropWhile p = c :: r.reverse := by
    rw [← List.reverse_reverse (s.reverse.dropWhile p), ← trimEndOf, h, List.reverse_append,
      List.reverse_singleton, List.singleton_append]
  exact eq_false_of_dropWhile_eq_cons front

theorem afterWord?_eq_some {w s r : List Char} (h : afterWord? w s = some r) :
    ∃ gap, IsGap gap ∧ s = w ++ gap ++ r := by
  unfold afterWord? at h
  split at h
  · rename_i c t ht
    split at h
    · rename_i hc
      cases h
      refine ⟨c :: t.takeWhile isBlank, ⟨List.cons_ne_nil _ _, ?_⟩, ?_⟩
      · rw [List.all_cons, hc, List.all_takeWhile, Bool.and_self]
      · rw [after?_eq_some_iff.1 ht, trimStart]
        simp
    · cases h
  · cases h

end Chars

namespace Import

open Chars

/-! ## Spellings -/

/-- The blanks between the parts of a directive. -/
structure Spelling where
  behindGlobal : List Char
  behindUsing : List Char
  behindStatic : List Char
  behindName : List Char
  behindEquals : List Char
  behindTarget : List Char

/-- There are blanks behind each word. -/
structure Spelling.IsLegal (w : Spelling) : Prop where
  behindGlobal : IsGap w.behindGlobal
  behindUsing : IsGap w.behindUsing
  behindStatic : IsGap w.behindStatic
  behindName : w.behindName.all isBlank = true
  behindEquals : w.behindEquals.all isBlank = true
  behindTarget : w.behindTarget.all isBlank = true

namespace Directive

/-- A word that may be left out, and the blanks behind it. -/
def modifier (there : Bool) (word : String) (gap : List Char) : List Char :=
  if there then word.toList ++ gap else []

@[simp] theorem modifier_true (word : String) (gap : List Char) :
    modifier true word gap = word.toList ++ gap := rfl

@[simp] theorem modifier_false (word : String) (gap : List Char) :
    modifier false word gap = [] := rfl

/-- The words of a directive from `using` on. -/
def laterWords (d : Directive) (w : Spelling) : List Char :=
  modifier true "using" w.behindUsing ++ modifier d.isStatic "static" w.behindStatic

/-- The words of a directive. -/
def words (d : Directive) (w : Spelling) : List Char :=
  modifier d.isGlobal "global" w.behindGlobal ++ d.laterWords w

/-- The alias of a directive, with its equals sign. -/
def naming (d : Directive) (w : Spelling) : List Char :=
  match d.alias? with
  | some name => name ++ w.behindName ++ '=' :: w.behindEquals
  | none => []

/-- A directive as it is spelled. -/
def spell (d : Directive) (w : Spelling) : List Char :=
  d.words w ++ (d.naming w ++ d.target) ++ w.behindTarget ++ [';']

/-- The names in a directive are such as can stand there. -/
structure IsNamed (d : Directive) : Prop where
  target : isTarget d.target = true
  names : ∀ name ∈ d.alias?, name.all isWordChar = true

/-- A directive as it can be read from a line: nothing else in it ends its target. -/
structure IsWritten (d : Directive) : Prop extends IsNamed d where
  solid : Trimmed d.target
  plain : ';' ∉ d.target

/-! ## Reading what is spelled -/

/-- Reads an alias and a target. -/
def ofNamed? (isGlobal isStatic : Bool) (s : List Char) : Option Directive :=
  match splitAlias? s with
  | some (name, r) => if isTarget r then some ⟨isGlobal, isStatic, some name, r⟩ else none
  | none => if isTarget s then some ⟨isGlobal, isStatic, none, s⟩ else none

theorem ofBody?_eq (isGlobal : Bool) (body : List Char) :
    ofBody? isGlobal body = match afterWord? "static".toList body with
      | some r => if startsName r then ofNamed? isGlobal true r else ofNamed? isGlobal false body
      | none => ofNamed? isGlobal false body := by
  unfold ofBody? ofNamed?
  cases afterWord? "static".toList body with
  | none => dsimp only; cases splitAlias? body <;> rfl
  | some r =>
    cases hr : startsName r with
    | true => simp only [hr, if_true]; cases splitAlias? r <;> rfl
    | false => simp only [hr, Bool.false_eq_true, if_false]; cases splitAlias? body <;> rfl

theorem isBlank_of_isNameStart {c : Char} (h : isNameStart c = true) : isBlank c = false := by
  have range : 65 ≤ c.toNat ∧ c.toNat ≤ 122 := by
    rcases Bool.or_eq_true_iff.1 h with letter | underscore
    · rcases Bool.or_eq_true_iff.1 letter with upper | lower
      · have bounds := of_decide_eq_true upper
        exact ⟨bounds.1, Nat.le_trans bounds.2 (by decide)⟩
      · have bounds := Bool.and_eq_true_iff.1 lower
        exact ⟨Nat.le_trans (by decide) (of_decide_eq_true bounds.1), of_decide_eq_true bounds.2⟩
    · rw [beq_iff_eq.1 underscore]
      decide
  simp only [isBlank, Bool.or_eq_false_iff, Bool.and_eq_false_iff, decide_eq_false_iff_not,
    beq_eq_false_iff_ne]
  omega

theorem startsSolid_of_startsName {s : List Char} (h : startsName s = true) : StartsSolid s := by
  cases s with
  | nil => cases h
  | cons c r => exact ⟨c, r, rfl, isBlank_of_isNameStart (by simpa [startsName] using h)⟩

/-- A target at the end of a text without blanks behind it begins and ends in no blank. -/
theorem trimmed_of_isTarget {s front target : List Char} (h : isTarget target = true)
    (hs : trimEnd s = front ++ target) : Trimmed target where
  first := startsSolid_of_startsName (Bool.and_eq_true_iff.1 h).1
  last := by
    rcases List.eq_nil_or_concat' target with rfl | ⟨r, c, rfl⟩
    · cases h
    · rw [← List.append_assoc] at hs
      exact ⟨r, c, rfl, eq_false_of_trimEndOf_eq_concat hs⟩

theorem splitAlias?_eq_some {s name r : List Char} (h : splitAlias? s = some (name, r)) :
    name.all isWordChar = true ∧ ∃ before behind, before.all isBlank = true ∧
      behind.all isBlank = true ∧ s = name ++ before ++ '=' :: behind ++ r := by
  unfold splitAlias? at h
  split at h
  · split at h
    · rename_i t ht
      cases h
      refine ⟨List.all_takeWhile, (s.dropWhile isWordChar).takeWhile isBlank, t.takeWhile isBlank,
        List.all_takeWhile, List.all_takeWhile, ?_⟩
      calc s
          = s.takeWhile isWordChar ++ s.dropWhile isWordChar :=
            List.takeWhile_append_dropWhile.symm
        _ = s.takeWhile isWordChar ++
              ((s.dropWhile isWordChar).takeWhile isBlank ++ '=' :: t) := by
            rw [← ht, takeWhile_append_trimStart]
        _ = s.takeWhile isWordChar ++ ((s.dropWhile isWordChar).takeWhile isBlank ++
              '=' :: (t.takeWhile isBlank ++ trimStart t)) := by
            rw [takeWhile_append_trimStart]
        _ = _ := by simp only [List.append_assoc, List.cons_append]
    · cases h
  · cases h

/-- One space behind each word, and no other blanks. -/
def plainSpelling : Spelling := ⟨[' '], [' '], [' '], [], [], []⟩

theorem isLegal_plainSpelling : plainSpelling.IsLegal := by
  have gap : IsGap [' '] := ⟨List.cons_ne_nil _ _, by decide⟩
  exact ⟨gap, gap, gap, rfl, rfl, rfl⟩

theorem ofNamed?_spelled {isGlobal isStatic : Bool} {s : List Char} {d : Directive}
    (h : ofNamed? isGlobal isStatic s = some d) :
    d.isGlobal = isGlobal ∧ d.isStatic = isStatic ∧ d.IsNamed ∧
      ∃ w : Spelling, w.IsLegal ∧ s = d.naming w ++ d.target := by
  have legal := isLegal_plainSpelling
  unfold ofNamed? at h
  split at h
  · rename_i name r hs
    obtain ⟨hn, before, behind, hb, he, rfl⟩ := splitAlias?_eq_some hs
    split at h
    · rename_i ht
      cases h
      exact ⟨rfl, rfl, ⟨ht, by simpa using hn⟩,
        { plainSpelling with behindName := before, behindEquals := behind },
        { legal with behindName := hb, behindEquals := he }, rfl⟩
    · cases h
  · split at h
    · rename_i ht
      cases h
      exact ⟨rfl, rfl, ⟨ht, nofun⟩, plainSpelling, legal, rfl⟩
    · cases h

/-- The parts of a directive from the word `static` on, but for the blanks behind them. -/
def body (d : Directive) (w : Spelling) : List Char :=
  modifier d.isStatic "static" w.behindStatic ++ (d.naming w ++ d.target)

theorem ofBody?_spelled {isGlobal : Bool} {s : List Char} {d : Directive}
    (h : ofBody? isGlobal s = some d) :
    d.isGlobal = isGlobal ∧ d.IsNamed ∧ ∃ w : Spelling, w.IsLegal ∧ s = d.body w := by
  have plain : ofNamed? isGlobal false s = some d →
      d.isGlobal = isGlobal ∧ d.IsNamed ∧ ∃ w : Spelling, w.IsLegal ∧ s = d.body w := by
    intro h
    obtain ⟨hg, hs, named, w, legal, rfl⟩ := ofNamed?_spelled h
    exact ⟨hg, named, w, legal, by rw [body, hs]; rfl⟩
  rw [ofBody?_eq] at h
  split at h
  · rename_i r hr
    split at h
    · obtain ⟨gap, hgap, rfl⟩ := afterWord?_eq_some hr
      obtain ⟨hg, hs, named, w, legal, rfl⟩ := ofNamed?_spelled h
      refine ⟨hg, named, { w with behindStatic := gap }, { legal with behindStatic := hgap }, ?_⟩
      rw [body, hs]
      rfl
    · exact plain h
  · exact plain h

/-- Between `using` and the semicolon a directive is spelled. -/
theorem ofUsing?_spelled {isGlobal : Bool} {s : List Char} {d : Directive}
    (h : ofUsing? isGlobal s = some d) :
    d.isGlobal = isGlobal ∧ d.IsWritten ∧
      ∃ (w : Spelling) (tail : List Char), w.IsLegal ∧ tail.all isBlank = true ∧
        s = d.laterWords w ++ (d.naming w ++ d.target) ++ w.behindTarget ++ ';' :: tail := by
  unfold ofUsing? at h
  obtain ⟨r, hr, hrest⟩ := Option.bind_eq_some_iff.1 h
  obtain ⟨⟨b, tail⟩, hc, hread⟩ := Option.bind_eq_some_iff.1 hrest
  obtain ⟨gap, hgap, rfl⟩ := afterWord?_eq_some hr
  obtain ⟨hb, rfl⟩ := eq_append_of_cut? hc
  dsimp only at hread
  split at hread
  · rename_i htail
    obtain ⟨blanks, hblanks, hbody⟩ := trimEndOf_append isBlank b
    obtain ⟨hg, named, w, legal, he⟩ := ofBody?_spelled hread
    have front : trimEnd b = modifier d.isStatic "static" w.behindStatic ++ d.naming w ++
        d.target := he.trans (List.append_assoc _ _ _).symm
    have plain : ';' ∉ d.target := by
      intro hm
      have there : ';' ∈ trimEnd b := by
        rw [front]
        exact List.mem_append_right _ hm
      exact hb (trimEndOf_subset _ _ there)
    refine ⟨hg, { named with solid := trimmed_of_isTarget named.target front, plain },
      { w with behindUsing := gap, behindTarget := blanks }, tail,
      { legal with behindUsing := hgap, behindTarget := hblanks }, htail, ?_⟩
    rw [← hbody, show trimEndOf isBlank b = d.body w from he, laterWords, body, modifier_true]
    simp only [List.append_assoc]
    rfl
  · cases hread

theorem startsSolid_words (d : Directive) (w : Spelling) : StartsSolid (d.words w) := by
  unfold words
  cases d.isGlobal with
  | true => exact ⟨'g', _, rfl, by decide⟩
  | false => exact ⟨'u', _, rfl, by decide⟩

/-- A line that holds a directive is, between blanks, the directive as it is spelled. -/
theorem exists_spelling {line : List Char} {d : Directive} (h : parse? line = some d) :
    d.IsWritten ∧ ∃ w : Spelling, w.IsLegal ∧ trim line = d.spell w := by
  have trimmed : ∀ (w : Spelling) (tail : List Char), tail.all isBlank = true →
      trimStart line = d.words w ++ (d.naming w ++ d.target) ++ w.behindTarget ++ ';' :: tail →
      trim line = d.spell w := by
    intro w tail ht hl
    rw [trim, hl, trimEnd, ← List.singleton_append, ← List.append_assoc,
      trimEndOf_append_all _ ht, trimEndOf_concat (by decide)]
    rfl
  rw [parse?_eq] at h
  split at h
  · rename_i r hr
    obtain ⟨gap, hgap, hl⟩ := afterWord?_eq_some hr
    obtain ⟨hg, written, w, tail, legal, ht, rfl⟩ := ofUsing?_spelled h
    refine ⟨written, { w with behindGlobal := gap },
      { legal with behindGlobal := hgap }, trimmed _ tail ht ?_⟩
    rw [hl, words, hg, modifier_true]
    simp only [List.append_assoc]
    rfl
  · obtain ⟨hg, written, w, tail, legal, ht, hl⟩ := ofUsing?_spelled h
    refine ⟨written, w, legal, trimmed _ tail ht ?_⟩
    rw [hl, words, hg]
    rfl

/-! ## Marks in a spelling -/

section

variable {d : Directive} {w : Spelling} {c : Char}

theorem not_mem_of_all {p : Char → Bool} {s : List Char} (h : s.all p = true) (hc : p c = false) :
    c ∉ s := by
  intro hm
  rw [List.all_eq_true.1 h c hm] at hc
  cases hc

/-- No mark stands in a word or behind it. -/
theorem not_mem_modifier {there : Bool} {word : String} {gap : List Char} (hw : c ∉ word.toList)
    (hg : IsGap gap) (hc : isBlank c = false) : c ∉ modifier there word gap := by
  cases there with
  | true => exact List.not_mem_append hw (not_mem_of_all hg.blank hc)
  | false => exact List.not_mem_nil

theorem not_mem_laterWords (legal : w.IsLegal) (hc : isBlank c = false)
    (hu : c ∉ "using".toList) (hs : c ∉ "static".toList) : c ∉ d.laterWords w :=
  List.not_mem_append (not_mem_modifier hu legal.behindUsing hc)
    (not_mem_modifier hs legal.behindStatic hc)

theorem not_mem_words (legal : w.IsLegal) (hc : isBlank c = false) (hg : c ∉ "global".toList)
    (hu : c ∉ "using".toList) (hs : c ∉ "static".toList) : c ∉ d.words w :=
  List.not_mem_append (not_mem_modifier hg legal.behindGlobal hc)
    (not_mem_laterWords legal hc hu hs)

theorem not_mem_naming (legal : w.IsLegal) (named : d.IsNamed) (hb : isBlank c = false)
    (hc : isWordChar c = false) (he : c ≠ '=') : c ∉ d.naming w := by
  unfold naming
  split
  · rename_i name hn
    simp only [List.mem_append, List.mem_cons, not_or]
    exact ⟨⟨not_mem_of_all (named.names name hn) hc, not_mem_of_all legal.behindName hb⟩, he,
      not_mem_of_all legal.behindEquals hb⟩
  · exact List.not_mem_nil

end

end Directive

/-! ## Dropping words -/

/-- A statement without the words that are dropped from it. -/
def dropWords (s : List Char) : List Char :=
  dropWord "static " (dropWord "using " (dropWord "global " s))

theorem dropWord_suffix (w : String) (s : List Char) : dropWord w s <:+ s := by
  unfold dropWord
  split
  · rename_i r hr
    exact (List.dropWhile_suffix _).trans ⟨w.toList, (after?_eq_some_iff.1 hr).symm⟩
  · exact List.suffix_refl _

theorem dropWords_suffix (s : List Char) : dropWords s <:+ s :=
  (dropWord_suffix _ _).trans ((dropWord_suffix _ _).trans (dropWord_suffix _ _))

theorem dropWord_append {w : String} {c : Char} (hc : isBlank c = false) (hw : c ∉ w.toList)
    (a b : List Char) : dropWord w (a ++ c :: b) = dropWord w a ++ c :: b := by
  unfold dropWord
  rw [after?_append hw]
  cases after? w.toList a with
  | none => rfl
  | some r => exact trimStart_append hc r b

/-- Words are dropped in front of an equals sign as if it did not follow. -/
theorem dropWords_append (a b : List Char) :
    dropWords (a ++ '=' :: b) = dropWords a ++ '=' :: b := by
  have solid : isBlank '=' = false := by decide
  unfold dropWords
  rw [dropWord_append solid (by decide), dropWord_append solid (by decide),
    dropWord_append solid (by decide)]

/-- A word is dropped just if a space follows it. -/
theorem dropWord_gap {w word : String} {gap rest : List Char}
    (hw : w.toList = word.toList ++ [' ']) (hg : IsGap gap) (hr : StartsSolid rest) :
    dropWord w (Directive.modifier true word gap ++ rest) =
      if gap.head? = some ' ' then rest else Directive.modifier true word gap ++ rest := by
  rw [Directive.modifier_true]
  obtain ⟨c, g, rfl⟩ := List.exists_cons_of_ne_nil hg.ne_nil
  unfold dropWord
  split
  · rename_i r found
    have behind : c :: g ++ rest = ' ' :: r := by
      rw [after?_eq_some_iff, hw, List.append_assoc, List.append_assoc] at found
      exact List.append_cancel_left found
    obtain ⟨rfl, rfl⟩ := List.cons.inj behind
    have blank : g.all isBlank = true := (Bool.and_eq_true_iff.1 hg.blank).2
    rw [List.head?_cons, if_pos rfl]
    exact hr.trimStart_append blank
  · rename_i missed
    have ne : c ≠ ' ' := by
      rintro rfl
      rw [Option.eq_none_iff_forall_ne_some] at missed
      refine missed (g ++ rest) (after?_eq_some_iff.2 ?_)
      simp [hw]
    rw [List.head?_cons, if_neg fun he => ne (Option.some.inj he)]

theorem dropWord_of_head?_ne {w : String} {s : List Char} {c : Char} {v : List Char}
    (hw : w.toList = c :: v) (h : s.head? ≠ some c) : dropWord w s = s := by
  unfold dropWord
  split
  · rename_i r found
    rw [after?_eq_some_iff.1 found, hw] at h
    exact absurd rfl h
  · rfl

/-- The word `static` and a space cannot begin a target. -/
theorem dropWord_static {s : List Char} (h : Directive.isTarget s = true) :
    dropWord "static " s = s := by
  unfold dropWord
  split
  · rename_i r found
    rw [after?_eq_some_iff] at found
    have bad : Directive.isTarget ("static ".toList ++ r) = false := rfl
    rw [found, bad] at h
    cases h
  · rfl

/-- Of a text its end `rest` is left, and in front of that nothing just if `all` holds, and no
equals sign. -/
def LeavesBehind (all : Prop) (rest left : List Char) : Prop :=
  ∃ front, left = front ++ rest ∧ '=' ∉ front ∧ (front = [] ↔ all)

namespace Directive

/-- One space at least follows each word at once. -/
def IsSpaced (d : Directive) (w : Spelling) : Prop :=
  (d.isGlobal = true → w.behindGlobal.head? = some ' ') ∧ w.behindUsing.head? = some ' ' ∧
    (d.isStatic = true → w.behindStatic.head? = some ' ')

variable {d : Directive} {w : Spelling}

theorem startsSolid_modifier {there : Bool} {word : String} {gap rest : List Char}
    (hw : StartsSolid word.toList) (hr : StartsSolid rest) :
    StartsSolid (modifier there word gap ++ rest) := by
  cases there with
  | true => exact (hw.append gap).append rest
  | false => exact hr

theorem leavesBehind_static (legal : w.IsLegal) (written : d.IsWritten) :
    LeavesBehind (d.isStatic = true → w.behindStatic.head? = some ' ') d.target
      (dropWord "static " (modifier d.isStatic "static" w.behindStatic ++ d.target)) := by
  cases d.isStatic with
  | false =>
    refine ⟨[], ?_, List.not_mem_nil, by simp⟩
    exact dropWord_static written.target
  | true =>
    have word : "static ".toList = "static".toList ++ [' '] := by decide
    rw [dropWord_gap word legal.behindStatic written.solid.first]
    split
    · rename_i space
      exact ⟨[], rfl, List.not_mem_nil, by simp [space]⟩
    · rename_i other
      have unmarked : '=' ∉ modifier true "static" w.behindStatic :=
        not_mem_modifier (by decide) legal.behindStatic (by decide)
      exact ⟨_, rfl, unmarked, by simp [other]⟩

theorem leavesBehind_using (legal : w.IsLegal) (written : d.IsWritten) :
    LeavesBehind (w.behindUsing.head? = some ' ' ∧
        (d.isStatic = true → w.behindStatic.head? = some ' ')) d.target
      (dropWord "static " (dropWord "using " (d.laterWords w ++ d.target))) := by
  have word : "using ".toList = "using".toList ++ [' '] := by decide
  have static : StartsSolid "static".toList := ⟨'s', _, rfl, by decide⟩
  have rest : StartsSolid (modifier d.isStatic "static" w.behindStatic ++ d.target) :=
    startsSolid_modifier static written.solid.first
  rw [laterWords, List.append_assoc, dropWord_gap word legal.behindUsing rest]
  split
  · rename_i space
    obtain ⟨front, he, hf, hall⟩ := leavesBehind_static legal written
    exact ⟨front, he, hf, hall.trans (and_iff_right space).symm⟩
  · rename_i other
    have first : "static ".toList = 's' :: "tatic ".toList := by decide
    rw [← List.append_assoc, ← laterWords]
    refine ⟨d.laterWords w, dropWord_of_head?_ne first (by simp [laterWords]), ?_,
      by simp [other, laterWords]⟩
    exact not_mem_laterWords legal (by decide) (by decide) (by decide)

/-- Where there is no alias, the words are dropped if a space follows each of them. Otherwise the
first word that none follows is kept, and with it all that follows. -/
theorem leavesBehind_words (legal : w.IsLegal) (written : d.IsWritten) :
    LeavesBehind (d.IsSpaced w) d.target (dropWords (d.words w ++ d.target)) := by
  have later := leavesBehind_using legal written
  unfold IsSpaced dropWords words
  cases d.isGlobal with
  | false =>
    have first : "global ".toList = 'g' :: "lobal ".toList := by decide
    have kept := dropWord_of_head?_ne (s := d.laterWords w ++ d.target) first
      (by simp [laterWords])
    simpa [modifier, kept] using later
  | true =>
    have word : "global ".toList = "global".toList ++ [' '] := by decide
    have rest : StartsSolid (d.laterWords w ++ d.target) := ⟨'u', _, rfl, by decide⟩
    rw [List.append_assoc, dropWord_gap word legal.behindGlobal rest]
    split
    · rename_i space
      obtain ⟨front, he, hf, hall⟩ := later
      exact ⟨front, he, hf, hall.trans (by simp [space])⟩
    · rename_i other
      have first : "using ".toList = 'u' :: "sing ".toList := by decide
      have next : "static ".toList = 's' :: "tatic ".toList := by decide
      have unmarked : '=' ∉ modifier true "global" w.behindGlobal :=
        not_mem_modifier (by decide) legal.behindGlobal (by decide)
      refine ⟨modifier true "global" w.behindGlobal ++ d.laterWords w, ?_, ?_, ?_⟩
      · rw [dropWord_of_head?_ne first (by simp), dropWord_of_head?_ne next (by simp),
          List.append_assoc]
      · exact List.not_mem_append unmarked
          (not_mem_laterWords legal (by decide) (by decide) (by decide))
      · simp [other]

end Directive

/-! ## What is found without reading -/

section

variable {line : String} {d : Directive} {w : Spelling}

open Directive

/-- A target is looked for behind the words and the first equals sign. -/
theorem target_eq_of_spell (legal : w.IsLegal) (written : d.IsWritten)
    (h : trim line.toList = d.spell w) :
    target line = match cut? '=' (dropWords (d.words w ++ (d.naming w ++ d.target))) with
      | some (_, right) => .ofList (trim right)
      | none => .ofList (dropWords (d.words w ++ (d.naming w ++ d.target))) := by
  have unmarked : ∀ c ∈ d.words w ++ (d.naming w ++ d.target) ++ w.behindTarget,
      (c == ';') = false := by
    have none : ';' ∉ d.words w ++ (d.naming w ++ d.target) ++ w.behindTarget := by
      simp only [List.mem_append, not_or]
      exact ⟨⟨not_mem_words legal (by decide) (by decide) (by decide) (by decide),
        not_mem_naming legal written.toIsNamed (by decide) (by decide) (by decide), written.plain⟩,
        not_mem_of_all legal.behindTarget (by decide)⟩
    exact fun c hc => beq_eq_false_iff_ne.2 fun he => none (he ▸ hc)
  have ends : Trimmed (d.words w ++ (d.naming w ++ d.target)) := by
    refine ⟨(startsSolid_words d w).append _, ?_⟩
    obtain ⟨r, c, he, hc⟩ := written.solid.last
    exact ⟨d.words w ++ (d.naming w ++ r), c, by rw [he]; simp, hc⟩
  have found : trim (trimEndOf (· == ';') (trim line.toList)) =
      d.words w ++ (d.naming w ++ d.target) := by
    rw [h, spell, trimEndOf_append_all _ (by decide), trimEndOf_eq_self unmarked,
      trim_append_blanks _ legal.behindTarget, ends.trim_eq]
  unfold target
  simp only [found]
  rfl

/-- Behind an alias the target is found. Without one it is found just if a space follows each word
and no equals sign stands in the target. -/
theorem target_eq_iff (legal : w.IsLegal) (written : d.IsWritten)
    (h : trim line.toList = d.spell w) :
    target line = .ofList d.target ↔
      d.alias?.isSome = true ∨ d.IsSpaced w ∧ '=' ∉ d.target := by
  rw [target_eq_of_spell legal written h]
  cases ha : d.alias? with
  | some name =>
    have split : d.words w ++ (d.naming w ++ d.target) =
        d.words w ++ (name ++ w.behindName) ++ '=' :: (w.behindEquals ++ d.target) := by
      simp [naming, ha]
    have front : '=' ∉ d.words w ++ (name ++ w.behindName) := by
      simp only [List.mem_append, not_or]
      exact ⟨not_mem_words legal (by decide) (by decide) (by decide) (by decide),
        not_mem_of_all (written.names name ha) (by decide),
        not_mem_of_all legal.behindName (by decide)⟩
    have left : '=' ∉ dropWords (d.words w ++ (name ++ w.behindName)) := fun hm =>
      front ((dropWords_suffix _).subset hm)
    have right : trim (w.behindEquals ++ d.target) = d.target := by
      rw [trim_blanks_append legal.behindEquals, written.solid.trim_eq]
    rw [split, dropWords_append, cut?_append left]
    simp [right]
  | none =>
    obtain ⟨front, he, hf, hall⟩ := leavesBehind_words legal written
    have bare : d.naming w = [] := by rw [naming, ha]
    rw [bare, List.nil_append, he]
    by_cases hm : '=' ∈ d.target
    · obtain ⟨a, b, hab, ha⟩ := List.eq_append_cons_of_mem hm
      have left : '=' ∉ front ++ a := by
        rw [List.mem_append, not_or]
        exact ⟨hf, ha⟩
      rw [hab, ← List.append_assoc, cut?_append left]
      have cut : String.ofList (trim b) ≠ .ofList (a ++ '=' :: b) := by
        intro same
        have le := length_trim_le b
        rw [String.ofList_injective same, List.length_append, List.length_cons] at le
        omega
      exact ⟨fun same => absurd same cut, fun h => absurd h (by simp)⟩
    · have left : '=' ∉ front ++ d.target := by
        rw [List.mem_append, not_or]
        exact ⟨hf, hm⟩
      rw [cut?_eq_none left]
      simp [hm, hall]

/-- A line is a statement as it stands just if `using` and a space are in front, between blanks. -/
theorem statement_eq_iff (legal : w.IsLegal) (h : trim line.toList = d.spell w) :
    statement line = Text.trim line ↔
      d.isGlobal = false ∧ w.behindUsing.head? = some ' ' := by
  have ends : (trim line.toList).getLast? = some ';' := by
    rw [h, spell, List.getLast?_concat]
  have begins : "using ".toList <+: trim line.toList ↔
      d.isGlobal = false ∧ w.behindUsing.head? = some ' ' := by
    obtain ⟨c, gap, hgap⟩ := List.exists_cons_of_ne_nil legal.behindUsing.ne_nil
    rw [h, spell, words, laterWords, modifier, hgap]
    cases d.isGlobal <;> simp [List.cons_prefix_cons, eq_comm]
  rw [← begins]
  constructor
  · intro same
    have chars : (statement line).toList = trim line.toList := by
      rw [same, Text.trim, String.toList_ofList]
    rcases statement_cases line with ⟨t, -, ht, -⟩ | hs
    · exact ⟨t, ht.symm⟩
    · have word : "using ".toList = 'u' :: "sing ".toList := by decide
      rw [← chars, hs, word, List.append_assoc]
      exact List.prefix_append _ _
  · rintro ⟨t, ht⟩
    have front : "using ".toList.isPrefixOf (trim line.toList) = true :=
      List.isPrefixOf_iff_prefix.2 ⟨t, ht⟩
    unfold statement
    simp only [front, ends]
    rfl

end

/-- A line among the imports that a text has: no default is added with the target that was found
in it. -/
theorem key_ne_of_mem_missingDefaults {line : String} {existing : List String}
    (hl : line ∈ existing) (defaults : List String) :
    ∀ s ∈ missingDefaults (existing.map key) defaults, key s ≠ Text.lowerAscii (target line) := by
  intro s hs same
  refine (missingDefaults_apart (existing.map key) defaults).2 s hs ?_
  rw [same]
  exact List.mem_map_of_mem hl

/-- How far the readers of directives agree. A line that holds a directive is spelled in one of the
ways that directives are spelled. Its target is found without reading it just if there is an alias,
or a space follows each of its words and no equals sign stands in the target; it is taken for a full
statement just if it begins with `using` and a space. Where its target is found, no default import
with that target is added. -/
theorem readings_compared {line : String} {d : Directive}
    (h : Directive.parse? line.toList = some d) :
    ∃ w : Spelling, w.IsLegal ∧ trim line.toList = d.spell w ∧
      (target line = .ofList d.target ↔
        d.alias?.isSome = true ∨ d.IsSpaced w ∧ '=' ∉ d.target) ∧
      (statement line = Text.trim line ↔
        d.isGlobal = false ∧ w.behindUsing.head? = some ' ') ∧
      (target line = .ofList d.target →
        ∀ (text : String) (existing defaults : List String), line ∈ existing →
          ∃ added : List String,
            addDefaults text existing defaults =
                String.join (added.map (· ++ newline text)) ++ text ∧
              ∀ s ∈ added, key s ≠ Text.lowerAscii (.ofList d.target)) := by
  obtain ⟨written, w, legal, spelled⟩ := Directive.exists_spelling h
  refine ⟨w, legal, spelled, target_eq_iff legal written spelled,
    statement_eq_iff legal spelled, fun found text existing defaults hl => ?_⟩
  refine ⟨missingDefaults (existing.map key) defaults, rfl, ?_⟩
  rw [← found]
  exact key_ne_of_mem_missingDefaults hl defaults

theorem readings_compared_alias :
    target "\tglobal using IO\t= System.IO ;\r" = "System.IO" ∧
    statement "\tglobal using IO\t= System.IO ;\r" ≠ "global using IO\t= System.IO ;" ∧
    ∃ added : List String,
      addDefaults "" ["\tglobal using IO\t= System.IO ;\r"] ["System", "system.io"] =
          String.join (added.map (· ++ newline "")) ++ "" ∧
        ∀ s ∈ added, key s ≠ "system.io" := by
  have read : Directive.parse? "\tglobal using IO\t= System.IO ;\r".toList =
      some ⟨true, false, some "IO".toList, "System.IO".toList⟩ := by decide +kernel
  obtain ⟨w, -, -, found, kept, apart⟩ := readings_compared read
  have imported := found.2 (.inl rfl)
  refine ⟨imported, fun same => ?_, apart imported "" _ _ (List.mem_singleton_self _)⟩
  have trimmed : Text.trim "\tglobal using IO\t= System.IO ;\r" =
      "global using IO\t= System.IO ;" := by decide +kernel
  exact absurd (kept.1 (same.trans trimmed.symm)).1 (by decide)

/-! ## Lines that are read differently -/

/-- The target of every line that holds a directive is found without reading it. -/
def FindsTargets : Prop :=
  ∀ (line : String) (d : Directive), Directive.parse? line.toList = some d →
    target line = .ofList d.target

/-- Every line that holds a directive is a full statement, between blanks. -/
def KeepsStatements : Prop :=
  ∀ (line : String) (d : Directive), Directive.parse? line.toList = some d →
    statement line = Text.trim line

/-- To no text a default is added with the target of a directive that the text has. -/
def AddsNewTargets : Prop :=
  ∀ (text : String) (defaults : List String) (line : String) (d d' : Directive),
    line ∈ declared text → Directive.parse? line.toList = some d →
      ∀ s ∈ addedDefaults defaults text, Directive.parse? s.toList = some d' →
        d'.target ≠ d.target

/-- A tab behind `using`, and `global` in front of it, are read by the directive alone. -/
theorem not_readersAgree : ¬ FindsTargets ∧ ¬ KeepsStatements ∧ ¬ AddsNewTargets := by
  refine ⟨fun finds => ?_, fun keeps => ?_, fun adds => ?_⟩
  · have found := finds "using\tSystem;" ⟨false, false, none, "System".toList⟩ (by decide +kernel)
    revert found
    decide +kernel
  · have kept := keeps "global using System;" ⟨true, false, none, "System".toList⟩
      (by decide +kernel)
    revert kept
    decide +kernel
  · have tabbed : Directive.parse? "using\tSystem;".toList =
        some ⟨false, false, none, "System".toList⟩ := by decide +kernel
    have spaced : Directive.parse? "using System;".toList =
        some ⟨false, false, none, "System".toList⟩ := by decide +kernel
    exact adds "using\tSystem;\nclass A {}" ["System"] "using\tSystem;" _ _ (by decide +kernel)
      tabbed "using System;" (by decide +kernel) spaced rfl

end Import
end PluginForge
