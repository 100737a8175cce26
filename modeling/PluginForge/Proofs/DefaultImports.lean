/-
Putting default imports in front of a text. A statement on one line that holds a directive is found
again in a text that it was put in front of. So the text then declares just what was added and what
it declared before, and nothing is added to it a second time.
-/
import PluginForge.Proofs.Edits

namespace PluginForge.Import

open Chars

/-- A text with the defaults that it does not declare itself. -/
def withDefaults (defaults : List String) (text : String) : String :=
  addDefaults text (declared text) defaults

/-- The statements that are put in front of it. -/
def addedDefaults (defaults : List String) (text : String) : List String :=
  missingDefaults ((declared text).map key) defaults

theorem withDefaults_eq (defaults : List String) (text : String) :
    withDefaults defaults text =
      String.join ((addedDefaults defaults text).map (· ++ newline text)) ++ text := rfl

/-- A statement on one line that holds a directive. -/
structure IsOneDirective (s : String) : Prop where
  oneLine : '\n' ∉ s.toList
  directive : isDirective s.toList = true

instance (s : String) : Decidable (IsOneDirective s) :=
  decidable_of_iff ('\n' ∉ s.toList ∧ isDirective s.toList = true)
    ⟨fun h => ⟨h.1, h.2⟩, fun h => ⟨h.1, h.2⟩⟩

/-! ## What a text declares -/

/-- The end of a line is no part of it, where the line does not end in a carriage return itself. -/
theorem lineContent_concat {s e : List Char} (hs : s.getLast? ≠ some '\r')
    (he : e = [] ∨ e = ['\r']) : lineContent (s ++ e ++ ['\n']) = s := by
  rcases he with rfl | rfl
  · unfold lineContent
    rw [List.append_nil, List.reverse_append, List.reverse_singleton, List.singleton_append]
    split
    · rename_i r h
      have hr : s.reverse = '\r' :: r := (List.cons.inj h).2
      rw [← List.reverse_reverse s, hr, List.reverse_cons, List.getLast?_concat] at hs
      exact absurd rfl hs
    · rename_i r _ h
      rw [← (List.cons.inj h).2, List.reverse_reverse]
    · rename_i h
      exact absurd rfl (h _)
  · simp [lineContent]

/-- A statement that was made of an import begins with no blank and ends in a semicolon. -/
theorem statement_trimmed (d : String) : Trimmed (statement d).toList where
  first := by
    obtain ⟨s, hs⟩ := statement_eq_cons d
    exact ⟨'u', s, hs, by decide⟩
  last := by
    obtain ⟨s, hs⟩ := statement_eq_concat d
    exact ⟨s, ';', hs, by decide⟩

/-- A text declares the statement on its first line before all that it declares below. -/
theorem declared_statement_append {d : String} (h : IsOneDirective (statement d)) {nl : String}
    {e : List Char} (he : e = [] ∨ e = ['\r']) (hnl : nl.toList = e ++ ['\n']) (text : String) :
    declared (statement d ++ nl ++ text) = statement d :: declared text := by
  have feedless : '\n' ∉ (statement d).toList ++ e := by
    rw [List.mem_append]
    rintro (hm | hm)
    · exact h.oneLine hm
    · rcases he with rfl | rfl <;> simp at hm
  have split : (statement d ++ nl ++ text).toList =
      (statement d).toList ++ e ++ '\n' :: text.toList := by simp [hnl]
  have last : (statement d).toList.getLast? ≠ some '\r' := by
    obtain ⟨s, hs⟩ := statement_eq_concat d
    simp [hs]
  have cut : lines (statement d ++ nl ++ text).toList =
      (statement d).toList :: lines text.toList := by
    rw [lines, split, rawLines_append_feed feedless, List.map_cons, lineContent_concat last he,
      lines]
  have found : (Directive.parse? (statement d).toList).isSome = true := h.directive
  rw [declared, cut, List.filter_cons, if_pos found, List.map_cons, (statement_trimmed d).trim_eq,
    String.ofList_toList, declared]

/-- A text declares the statements in front of it, and then what it declared before. -/
theorem declared_join {added : List String} {nl : String} {e : List Char}
    (he : e = [] ∨ e = ['\r']) (hnl : nl.toList = e ++ ['\n']) (text : String)
    (h : ∀ s ∈ added, ∃ d, s = statement d ∧ IsOneDirective s) :
    declared (String.join (added.map (· ++ nl)) ++ text) = added ++ declared text := by
  induction added with
  | nil => simp
  | cons s rest ih =>
    rw [List.forall_mem_cons] at h
    obtain ⟨⟨d, rfl, hd⟩, hrest⟩ := h
    have front : String.join ((statement d :: rest).map (· ++ nl)) ++ text =
        statement d ++ nl ++ (String.join (rest.map (· ++ nl)) ++ text) := by
      simp [String.append_assoc]
    rw [front, declared_statement_append hd he hnl, ih hrest, List.cons_append]

/-! ## Plain statements

The name under which a statement is compared is found without reading it as a directive. -/

/-- A statement with one space between its words, of which only `static` may stand before the
target, and a target without alias or blanks. -/
structure IsPlain (s : String) (isStatic : Bool) (name : List Char) : Prop where
  spelled : s.toList =
    "using ".toList ++ ((if isStatic then "static ".toList else []) ++ name) ++ [';']
  named : Directive.startsName name = true
  bare : ∀ c ∈ name, isBlank c = false ∧ c ≠ ';' ∧ c ≠ '='

theorem trimmed_append {a b : List Char} (ha : ∃ c r, a = c :: r ∧ isBlank c = false)
    (hb : Trimmed b) : Trimmed (a ++ b) where
  first := by
    obtain ⟨c, r, rfl, hc⟩ := ha
    exact ⟨c, r ++ b, rfl, hc⟩
  last := by
    obtain ⟨r, c, rfl, hc⟩ := hb.last
    exact ⟨a ++ r, c, by simp, hc⟩

theorem trimStart_of_trimmed {s : List Char} (h : Trimmed s) (t : List Char) :
    trimStart (s ++ t) = s ++ t := by
  obtain ⟨c, r, rfl, hc⟩ := h.first
  simp [trimStart, hc]

/-- The words between `using` and the semicolon of a plain statement. -/
def plainWords (isStatic : Bool) (name : List Char) : List Char :=
  (if isStatic then "static ".toList else []) ++ name

namespace IsPlain

variable {s : String} {isStatic : Bool} {name : List Char} (h : IsPlain s isStatic name)
include h

theorem ne_nil : name ≠ [] := by
  rintro rfl
  cases h.named

theorem trimmed : Trimmed name where
  first := by
    obtain ⟨c, r, rfl⟩ := List.exists_cons_of_ne_nil h.ne_nil
    exact ⟨c, r, rfl, (h.bare c List.mem_cons_self).1⟩
  last := by
    obtain ⟨r, c, rfl⟩ := (List.eq_nil_or_concat' name).resolve_left h.ne_nil
    exact ⟨r, c, rfl, (h.bare c (by simp)).1⟩

/-- No word that a blank follows stands in the target. -/
theorem blank_not_mem {b : Char} (hb : isBlank b = true) : b ∉ name := by
  intro mem
  rw [(h.bare b mem).1] at hb
  cases hb

/-- No blank and no semicolon is at an end of the words of the statement, and they hold no mark. -/
theorem words : Trimmed (plainWords isStatic name) ∧
    ∀ c ∈ plainWords isStatic name, c ≠ ';' ∧ c ≠ '=' := by
  have own : ∀ c ∈ name, c ≠ ';' ∧ c ≠ '=' := fun c hc => (h.bare c hc).2
  cases isStatic with
  | false => exact ⟨h.trimmed, own⟩
  | true =>
    refine ⟨trimmed_append ⟨'s', "tatic ".toList, rfl, by decide⟩ h.trimmed, ?_⟩
    exact List.forall_mem_append.2 ⟨by simp, own⟩

theorem dropWord_using :
    dropWord "using " ("using ".toList ++ plainWords isStatic name) = plainWords isStatic name := by
  have found : after? "using ".toList ("using ".toList ++ plainWords isStatic name) =
      some (plainWords isStatic name) :=
    after?_eq_some_iff.2 rfl
  have start := trimStart_of_trimmed h.words.1 []
  rw [List.append_nil] at start
  rw [dropWord, found]
  exact start

theorem dropWord_static : dropWord "static " (plainWords isStatic name) = name := by
  have start := trimStart_of_trimmed h.trimmed []
  rw [List.append_nil] at start
  unfold dropWord
  cases isStatic with
  | true =>
    have found : after? "static ".toList (plainWords true name) = some name :=
      after?_eq_some_iff.2 rfl
    simp only [found, start]
  | false =>
    have missed : after? "static ".toList name = none := by
      rw [Option.eq_none_iff_forall_ne_some]
      intro r found
      refine h.blank_not_mem (b := ' ') (by decide) ?_
      simp [after?_eq_some_iff.1 found]
    simp only [plainWords, Bool.false_eq_true, if_false, List.nil_append, missed]

/-- What the statement imports, by its words. -/
theorem target_eq : target s = .ofList name := by
  obtain ⟨words, marks⟩ := h.words
  have spelled : s.toList = "using ".toList ++ plainWords isStatic name ++ [';'] := h.spelled
  have front : Trimmed ("using ".toList ++ plainWords isStatic name) :=
    trimmed_append ⟨'u', "sing ".toList, rfl, by decide⟩ words
  have semicolon : Trimmed [';'] := ⟨⟨';', [], rfl, by decide⟩, ⟨[], ';', rfl, by decide⟩⟩
  have whole : Trimmed s.toList := by
    rw [spelled]
    exact trimmed_append ⟨'u', "sing ".toList ++ plainWords isStatic name, rfl, by decide⟩ semicolon
  have cut : trim (trimEndOf (· == ';') (trim s.toList)) =
      "using ".toList ++ plainWords isStatic name := by
    obtain ⟨r, c, hr, -⟩ := words.last
    have hc : (c == ';') = false := beq_eq_false_iff_ne.2 (marks c (by simp [hr])).1
    have kept := trimEndOf_concat (p := (· == ';')) hc ("using ".toList ++ r)
    rw [whole.trim_eq, spelled, trimEndOf_append_all _ (by decide), hr, ← List.append_assoc, kept,
      List.append_assoc, ← hr, front.trim_eq]
  have global : dropWord "global " ("using ".toList ++ plainWords isStatic name) =
      "using ".toList ++ plainWords isStatic name := rfl
  have marked : '=' ∉ name := fun mem => (h.bare _ mem).2.2 rfl
  unfold target
  simp only [cut, global, h.dropWord_using, h.dropWord_static, cut?_eq_none marked]

theorem splitAlias?_eq_none : Directive.splitAlias? name = none := by
  unfold Directive.splitAlias?
  split
  · split
    · rename_i r found
      have rest : '=' :: r <:+ name :=
        found ▸ (List.dropWhile_suffix _).trans (List.dropWhile_suffix _)
      exact absurd rfl (h.bare _ (rest.subset List.mem_cons_self)).2.2
    · rfl
  · rfl

/-- The words of the statement are read as what they spell, if at all. -/
theorem ofBody?_eq : Directive.ofBody? false (plainWords isStatic name) =
    if Directive.isTarget name then some ⟨false, isStatic, none, name⟩ else none := by
  unfold Directive.ofBody?
  cases isStatic with
  | true =>
    have found : after? "static".toList (plainWords true name) = some (' ' :: name) :=
      after?_eq_some_iff.2 rfl
    have blank : isBlank ' ' = true := by decide
    have start := trimStart_of_trimmed h.trimmed []
    rw [List.append_nil] at start
    have static : afterWord? "static".toList (plainWords true name) = some name := by
      rw [afterWord?, found]
      simp only [blank, if_true, start]
    simp only [static, h.named, if_true, h.splitAlias?_eq_none]
  | false =>
    have own : plainWords false name = name := rfl
    have static : afterWord? "static".toList name = none := by
      rw [afterWord?]
      split
      · rename_i c r found
        split
        · rename_i blank
          refine absurd ?_ (h.blank_not_mem blank)
          simp [after?_eq_some_iff.1 found]
        · rfl
      · rfl
    simp only [own, static, h.splitAlias?_eq_none]

theorem ofUsing?_eq :
    Directive.ofUsing? false ("using ".toList ++ plainWords isStatic name ++ [';']) =
      Directive.ofBody? false (plainWords isStatic name) := by
  obtain ⟨words, marks⟩ := h.words
  generalize plainWords isStatic name = w at words marks
  have found : after? "using".toList ("using ".toList ++ w ++ [';']) = some (' ' :: (w ++ [';'])) :=
    after?_eq_some_iff.2 (by simp)
  have blank : isBlank ' ' = true := by decide
  have behind : afterWord? "using".toList ("using ".toList ++ w ++ [';']) = some (w ++ [';']) := by
    rw [afterWord?, found]
    simp only [blank, if_true, trimStart_of_trimmed words]
  have unmarked : ';' ∉ w := fun mem => (marks _ mem).1 rfl
  have ended : trimEnd w = w := by
    obtain ⟨r, c, hr, hc⟩ := words.last
    rw [hr, trimEnd, trimEndOf_concat hc]
  unfold Directive.ofUsing?
  simp only [behind, Option.bind_eq_bind, Option.bind_some, cut?_append unmarked, ended]
  rfl

/-- What the directive on the line of the statement imports, which is the same. -/
theorem parse?_eq {d : Directive} (hd : Directive.parse? s.toList = some d) :
    d = ⟨false, isStatic, none, name⟩ := by
  have start : trimStart s.toList = "using ".toList ++ plainWords isStatic name ++ [';'] := by
    rw [h.spelled]
    rfl
  have global : afterWord? "global".toList
      ("using ".toList ++ plainWords isStatic name ++ [';']) = none := rfl
  rw [Directive.parse?_eq, start, global] at hd
  dsimp only at hd
  rw [h.ofUsing?_eq, h.ofBody?_eq] at hd
  split at hd
  · exact (Option.some.inj hd).symm
  · cases hd

end IsPlain

/-! ## Which defaults are missing -/

section

variable {present defaults : List String}

/-- What is added has a target of its own. -/
theorem missingDefaults_apart (present defaults : List String) :
    ((missingDefaults present defaults).map key).Nodup ∧
      ∀ s ∈ missingDefaults present defaults, key s ∉ present := by
  induction defaults generalizing present with
  | nil => exact ⟨List.nodup_nil, nofun⟩
  | cons d rest ih =>
    unfold missingDefaults
    dsimp only
    split
    · exact ih present
    · split
      · exact ih present
      · rename_i absent
        obtain ⟨nodup, new⟩ := ih (key (statement d) :: present)
        have own : key (statement d) ∉
            (missingDefaults (key (statement d) :: present) rest).map key := by
          intro hm
          obtain ⟨s, hs, he⟩ := List.mem_map.1 hm
          refine new s hs ?_
          rw [he]
          exact List.mem_cons_self
        refine ⟨List.nodup_cons.2 ⟨own, nodup⟩, List.forall_mem_cons.2 ⟨absent, ?_⟩⟩
        exact fun s hs hm => new s hs (List.mem_cons_of_mem _ hm)

/-- The target of every default is present or added. -/
theorem key_present_or_missing {d : String} (hd : d ∈ defaults) (hb : Text.isBlank d = false)
    (present : List String) :
    key (statement d) ∈ present ++ (missingDefaults present defaults).map key := by
  induction defaults generalizing present with
  | nil => cases hd
  | cons d' rest ih =>
    unfold missingDefaults
    dsimp only
    rcases List.mem_cons.1 hd with rfl | hd
    · rw [if_neg (by simp [hb])]
      split
      · rename_i there
        exact List.mem_append_left _ there
      · simp
    · split
      · exact ih hd present
      · split
        · exact ih hd present
        · have h := ih hd (key (statement d') :: present)
          rw [List.cons_append, List.mem_cons, List.mem_append] at h
          rw [List.map_cons, List.mem_append, List.mem_cons]
          exact or_left_comm.1 h

/-- Nothing is missing where every default's target is present. -/
theorem missingDefaults_eq_nil
    (h : ∀ d ∈ defaults, Text.isBlank d = false → key (statement d) ∈ present) :
    missingDefaults present defaults = [] := by
  refine List.eq_nil_iff_forall_not_mem.2 fun s hs => ?_
  have absent := (missingDefaults_apart present defaults).2 s hs
  obtain ⟨d, hd, hb, rfl⟩ := exists_of_mem_missingDefaults hs
  exact absent (h d hd hb)

end

/-! ## Texts with defaults -/

section

variable {defaults : List String}

theorem declared_withDefaults
    (h : ∀ d ∈ defaults, Text.isBlank d = false → IsOneDirective (statement d)) (text : String) :
    declared (withDefaults defaults text) = addedDefaults defaults text ++ declared text := by
  obtain ⟨e, he, hnl⟩ := newline_eq text
  rw [withDefaults_eq]
  refine declared_join he hnl text fun s hs => ?_
  obtain ⟨d, hd, hb, rfl⟩ := exists_of_mem_missingDefaults hs
  exact ⟨d, rfl, h d hd hb⟩

/-- Default imports are put in front of a text once. Where every statement of a default is one line
that holds a directive, the text then declares the added statements before its own, no two of the
added ones have one target or that of a directive the text had, and no default is without a
directive of its target. Doing it again changes nothing. -/
theorem withDefaults_settles
    (h : ∀ d ∈ defaults, Text.isBlank d = false → IsOneDirective (statement d)) (text : String) :
    withDefaults defaults (withDefaults defaults text) = withDefaults defaults text ∧
    text.toList <:+ (withDefaults defaults text).toList ∧
    ∃ added, withDefaults defaults text = String.join (added.map (· ++ newline text)) ++ text ∧
      List.Sublist added ((defaults.filter fun d => ! Text.isBlank d).map statement) ∧
      declared (withDefaults defaults text) = added ++ declared text ∧
      (added.map key).Nodup ∧
      (∀ s ∈ added, ∀ s' ∈ declared text, key s ≠ key s') ∧
      (∀ s ∈ added, ∀ isStatic name, IsPlain s isStatic name →
        Directive.parse? s.toList = some ⟨false, isStatic, none, name⟩ ∧
          target s = .ofList name) ∧
      (∀ d ∈ defaults, Text.isBlank d = false →
        ∃ s ∈ declared (withDefaults defaults text), key s = key (statement d)) := by
  have declares := declared_withDefaults h text
  have covered : ∀ d ∈ defaults, Text.isBlank d = false →
      ∃ s ∈ declared (withDefaults defaults text), key s = key (statement d) := by
    intro d hd hb
    have found := key_present_or_missing hd hb ((declared text).map key)
    rw [← List.map_append] at found
    obtain ⟨s, hs, he⟩ := List.mem_map.1 found
    refine ⟨s, ?_, he⟩
    rw [declares, List.mem_append]
    exact (List.mem_append.1 hs).symm
  have again : addedDefaults defaults (withDefaults defaults text) = [] := by
    refine missingDefaults_eq_nil fun d hd hb => ?_
    obtain ⟨s, hs, he⟩ := covered d hd hb
    rw [← he]
    exact List.mem_map_of_mem hs
  obtain ⟨nodup, new⟩ := missingDefaults_apart ((declared text).map key) defaults
  refine ⟨?_, ?_, addedDefaults defaults text, withDefaults_eq defaults text,
    missingDefaults_sublist _ defaults, declares, nodup, ?_, ?_, covered⟩
  · rw [withDefaults_eq, again, List.map_nil]
    simp
  · rw [withDefaults_eq, String.toList_append]
    exact List.suffix_append _ _
  · intro s hs s' hs' same
    refine new s hs ?_
    rw [same]
    exact List.mem_map_of_mem hs'
  · intro s hs isStatic name plain
    obtain ⟨d, hd, hb, rfl⟩ := exists_of_mem_missingDefaults hs
    obtain ⟨directive, found⟩ := Option.isSome_iff_exists.1 (h d hd hb).directive
    rw [plain.parse?_eq found] at found
    exact ⟨found, plain.target_eq⟩

end

/-- Of five defaults, one is blank, one repeats another and one is declared in other letters. -/
theorem withDefaults_settles_two_missing :
    withDefaults ["System", "System.IO", " ", "using static System.Math;", "SYSTEM"]
        "using system.io;\r\nclass A {}" =
      "using System;\r\nusing static System.Math;\r\nusing system.io;\r\nclass A {}" ∧
    withDefaults ["System", "System.IO", " ", "using static System.Math;", "SYSTEM"]
        "using System;\r\nusing static System.Math;\r\nusing system.io;\r\nclass A {}" =
      "using System;\r\nusing static System.Math;\r\nusing system.io;\r\nclass A {}" := by
  have all : ∀ d ∈ ["System", "System.IO", " ", "using static System.Math;", "SYSTEM"],
      Text.isBlank d = false → IsOneDirective (statement d) := by
    decide +kernel
  have first : withDefaults ["System", "System.IO", " ", "using static System.Math;", "SYSTEM"]
      "using system.io;\r\nclass A {}" =
        "using System;\r\nusing static System.Math;\r\nusing system.io;\r\nclass A {}" := by
    decide +kernel
  have settled := (withDefaults_settles all "using system.io;\r\nclass A {}").1
  rw [first] at settled
  exact ⟨first, settled⟩

end PluginForge.Import
