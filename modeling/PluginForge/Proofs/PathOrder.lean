/-
The order of paths by their steps, and the order of their texts. Steps are compared name by name, so
that a separator counts less than any character of a name. In a text it does not: a dot, a dash or a
blank comes before it. So of two plain absolute paths the texts are ordered otherwise than the steps
just if at their first difference one goes on with a separator and the other with such a character.
-/
import Mathlib.Data.String.Basic
import PluginForge.Proofs.DiskStore

namespace PluginForge.Path

open Std (LawfulEqCmp OrientedCmp ReflCmp TransCmp)

/-! ## The order of steps -/

theorem compareNames_trans : TransCmp fun a b : List Char => compareOfLessAndEq a b :=
  Std.TransOrd.compareOfLessAndEq_of_lt_trans_of_lt_iff (fun h h' => lt_trans h h')
    fun a b => by rw [not_lt, lt_iff_le_and_ne]

theorem eq_of_compareNames {a b : List Char} (h : compareOfLessAndEq a b = .eq) : a = b := by
  unfold compareOfLessAndEq at h
  split at h
  · cases h
  · split at h
    · rename_i same
      exact same
    · cases h

instance : TransCmp Component.compare where
  eq_swap {a b} := by
    cases a <;> cases b <;> first | rfl | exact compareNames_trans.eq_swap
  isLE_trans {a b c} hab hbc := by
    cases a <;> cases b <;> cases c <;>
      first
      | rfl
      | exact compareNames_trans.isLE_trans hab hbc
      | exact absurd hab Bool.false_ne_true
      | exact absurd hbc Bool.false_ne_true

theorem compareComponents_eq : compareComponents = List.compareLex Component.compare := by
  funext a b
  induction a generalizing b with
  | nil => cases b <;> rfl
  | cons c a ih =>
    cases b with
    | nil => rfl
    | cons c' b => rw [compareComponents, ih, List.compareLex_cons_cons]

instance : LawfulEqCmp Component.compare where
  eq_of_compare {a b} h := by
    cases a <;> cases b <;>
      first
      | rfl
      | exact congrArg Component.name (eq_of_compareNames h)
      | cases h

instance : TransCmp compareComponents := by
  rw [compareComponents_eq]
  infer_instance

instance : LawfulEqCmp compareComponents := by
  rw [compareComponents_eq]
  infer_instance

instance : TransCmp compare where
  eq_swap {_ _} := @OrientedCmp.eq_swap _ compareComponents _ _ _
  isLE_trans {_ _ _} := @TransCmp.isLE_trans _ compareComponents _ _ _ _

instance : Std.Irrefl fun p q : Path => p.compare q = .lt where
  irrefl p h := by
    have same : p.compare p = .eq := ReflCmp.compare_self
    rw [same] at h
    cases h

instance : Std.Antisymm fun p q : Path => p.compare q = .lt where
  antisymm p q h h' := by
    rw [OrientedCmp.gt_of_lt h'] at h
    cases h

theorem compare_pairwise_mergeSort (ps : List Path) :
    (ps.mergeSort fun p q => (p.compare q).isLE).Pairwise fun p q => (p.compare q).isLE = true :=
  List.pairwise_mergeSort (fun _ _ _ => TransCmp.isLE_trans)
    (fun p q => by
      have swap : q.compare p = (p.compare q).swap := OrientedCmp.eq_swap
      rw [swap]
      cases p.compare q <;> rfl) ps

/-! ## The order of texts -/

/-- Where a character comes if the separator comes first of all. -/
def rank (c : Char) : Nat :=
  if c = '/' then 0 else c.toNat + 1

theorem rank_lt_rank {c d : Char} (hd : d ≠ '/') (h : c = '/' ∨ c < d) : rank c < rank d := by
  rw [rank, rank, if_neg hd]
  split
  · exact Nat.succ_pos _
  · rename_i hc
    exact Nat.succ_lt_succ (h.resolve_left hc)

/-- One text comes before another if the separator comes first of all. -/
def Precedes : List Char → List Char → Prop :=
  List.Lex fun c d => rank c < rank d

theorem Precedes.asymm {s t : List Char} (h : Precedes s t) : ¬ Precedes t s := by
  induction h with
  | nil => exact nofun
  | rel lower =>
    intro h'
    cases h' with
    | rel upper => exact lt_asymm lower upper
    | cons _ => exact lt_irrefl _ lower
  | cons _ ih =>
    intro h'
    cases h' with
    | rel upper => exact lt_irrefl _ upper
    | cons h' => exact ih h'

theorem Precedes.append {s t : List Char} (h : Precedes s t) (u : List Char) :
    Precedes (u ++ s) (u ++ t) := by
  induction u with
  | nil => exact h
  | cons c u ih => exact .cons ih

/-- At the first difference of two texts, one has a character that comes before the separator, and
the other has a separator. -/
def Crosses (s t : List Char) : Prop :=
  ∃ u c v w, s = u ++ c :: v ∧ t = u ++ '/' :: w ∧ c < '/'

theorem Crosses.lt {s t : List Char} (h : Crosses s t) : s < t ∧ Precedes t s := by
  obtain ⟨u, c, v, w, rfl, rfl, hc⟩ := h
  induction u with
  | nil => exact ⟨.rel hc, .rel (rank_lt_rank (ne_of_lt hc) (.inl rfl))⟩
  | cons x u ih => exact ⟨.cons ih.1, .cons ih.2⟩

theorem crosses_cons {c d : Char} {s t : List Char} :
    Crosses (c :: s) (d :: t) ↔ c < '/' ∧ d = '/' ∨ c = d ∧ Crosses s t := by
  constructor
  · rintro ⟨u, c', v, w, hs, ht, hc⟩
    cases u with
    | nil =>
      obtain ⟨rfl, -⟩ := List.cons.inj hs
      exact .inl ⟨hc, (List.cons.inj ht).1⟩
    | cons x u =>
      obtain ⟨rfl, left⟩ := List.cons.inj hs
      obtain ⟨rfl, right⟩ := List.cons.inj ht
      exact .inr ⟨rfl, u, c', v, w, left, right, hc⟩
  · rintro (⟨hc, rfl⟩ | ⟨rfl, u, c', v, w, rfl, rfl, hc⟩)
    · exact ⟨[], c, s, t, rfl, rfl, hc⟩
    · exact ⟨c :: u, c', v, w, rfl, rfl, hc⟩

instance decidableCrosses : DecidableRel Crosses
  | [], t => .isFalse (by simp [Crosses])
  | _ :: _, [] => .isFalse (by simp [Crosses])
  | _ :: s, _ :: t =>
    have := decidableCrosses s t
    decidable_of_iff _ crosses_cons.symm

/-- Texts that do not cross are ordered alike by both orders. -/
theorem precedes_of_lt {s t : List Char} (h : s < t) (apart : ¬ Crosses s t) : Precedes s t := by
  change List.Lex (· < ·) s t at h
  induction h with
  | nil => exact .nil
  | @rel a as b bs lower =>
    refine .rel (rank_lt_rank ?_ (.inr lower))
    rintro rfl
    exact apart ⟨[], a, as, bs, rfl, rfl, lower⟩
  | @cons a as bs _ ih =>
    refine .cons (ih ?_)
    rintro ⟨u, c, v, w, rfl, rfl, hc⟩
    exact apart ⟨a :: u, c, v, w, rfl, rfl, hc⟩

/-! ## Plain absolute paths -/

/-- The text of the path to a place, but for the root. -/
def spell (place : List String) : List Char :=
  place.flatMap fun n => '/' :: n.toList

theorem spell_cons (n : String) (place : List String) :
    spell (n :: place) = '/' :: (n.toList ++ spell place) := rfl

/-- A name that comes before another one does so whatever follows the two, if that begins with a
separator. -/
theorem precedes_append_of_lt {a b s : List Char} (h : a < b) (ha : '/' ∉ a) (hb : '/' ∉ b)
    (hs : ∀ c ∈ s.head?, c = '/') (t : List Char) : Precedes (a ++ s) (b ++ t) := by
  change List.Lex (· < ·) a b at h
  induction h with
  | @nil b bs =>
    have hne : b ≠ '/' := fun e => hb (by simp [e])
    cases s with
    | nil => exact .nil
    | cons c s => exact .rel (rank_lt_rank hne (.inl (hs c rfl)))
  | @rel a as b bs lower =>
    exact .rel (rank_lt_rank (fun e => hb (by simp [e])) (.inr lower))
  | @cons a as bs _ ih =>
    exact .cons (ih (fun h => ha (List.mem_cons_of_mem _ h)) fun h => hb (List.mem_cons_of_mem _ h))

/-- The steps of a place below the root. -/
def names (place : List String) : List Component :=
  place.map fun n => .name n.toList

theorem head?_spell (place : List String) : ∀ c ∈ (spell place).head?, c = '/' := by
  cases place with
  | nil => exact nofun
  | cons n place =>
    rintro c hc
    exact (Option.some.inj hc).symm

/-- Places are ordered by their steps as their texts are if the separator comes first of all. -/
theorem precedes_spell {a b : List String} (ha : ∀ n ∈ a, '/' ∉ n.toList)
    (hb : ∀ n ∈ b, '/' ∉ n.toList) (h : compareComponents (names a) (names b) = .lt) :
    Precedes (spell a) (spell b) := by
  induction a generalizing b with
  | nil =>
    cases b with
    | nil => cases h
    | cons m b => exact .nil
  | cons n a ih =>
    cases b with
    | nil => cases h
    | cons m b =>
      rw [List.forall_mem_cons] at ha hb
      have h : ((compareOfLessAndEq n.toList m.toList).then
          (compareComponents (names a) (names b))) = .lt := h
      rw [spell_cons, spell_cons]
      refine .cons ?_
      by_cases lower : n.toList < m.toList
      · exact precedes_append_of_lt lower ha.1 hb.1 (head?_spell a) _
      · by_cases same : n.toList = m.toList
        · rw [compareOfLessAndEq, if_neg lower, if_pos same] at h
          rw [same]
          exact (ih ha.2 hb.2 h).append _
        · rw [compareOfLessAndEq, if_neg lower, if_neg same] at h
          cases h

/-- Names that can stand between the separators of a path and mean the same to every file system. -/
def IsPlain (place : List String) : Prop :=
  ∀ n ∈ place, IsName n.toList ∧ '\\' ∉ n.toList

instance (name : List Char) : Decidable (IsName name) :=
  decidable_of_iff ('/' ∉ name ∧ Component.ofSegment? name = some (.name name))
    ⟨fun h => ⟨h.1, h.2⟩, fun h => ⟨h.plain, h.step⟩⟩

instance (place : List String) : Decidable (IsPlain place) :=
  inferInstanceAs (Decidable (∀ n ∈ place, IsName n.toList ∧ '\\' ∉ n.toList))

theorem IsPlain.noSeparator {place : List String} (h : IsPlain place) :
    ∀ n ∈ place, '/' ∉ n.toList := fun n hn => (h n hn).1.plain

theorem eq_of_names_eq {a b : List String} (h : names a = names b) : a = b := by
  refine List.map_injective_iff.2 (fun n m e => ?_) h
  exact String.toList_injective (Component.name.inj e)

/-- The text decides on the order of steps, if the separator comes first of all. -/
theorem compare_names_of_precedes {a b : List String} (ha : IsPlain a) (hb : IsPlain b)
    (h : Precedes (spell a) (spell b)) : compareComponents (names a) (names b) = .lt := by
  cases hc : compareComponents (names a) (names b) with
  | lt => rfl
  | eq =>
    have same := eq_of_names_eq (LawfulEqCmp.eq_of_compare hc)
    rw [same] at h
    exact absurd h h.asymm
  | gt =>
    have back : compareComponents (names b) (names a) = .lt := OrientedCmp.lt_of_gt hc
    exact absurd (precedes_spell hb.noSeparator ha.noSeparator back) h.asymm

/-- The path to a file at a place. -/
def ofPlace (place : List String) : Path :=
  ⟨.ofList (spell place)⟩

@[simp] theorem toList_ofPlace (place : List String) : (ofPlace place).text.toList = spell place :=
  String.toList_ofList

theorem components_ofPlace {place : List String} (h : IsPlain place) (hne : place ≠ []) :
    (ofPlace place).components = .root :: names place := by
  induction place using List.reverseRecOn with
  | nil => exact absurd rfl hne
  | append_singleton place n ih =>
    have name : IsName n.toList := (h n (by simp)).1
    have text : (ofPlace (place ++ [n])).text.toList =
        (ofPlace place).text.toList ++ '/' :: n.toList := by simp [spell]
    by_cases hp : place = []
    · subst hp
      have alone : (ofPlace [n]).text.toList = '/' :: n.toList := by simp [spell]
      rw [List.nil_append, components, alone]
      simp only [segments_singleton name.plain]
      exact congrArg _ (filterMap_ofSegment?_append name [])
    · have front : (ofPlace place).text.toList ≠ [] := by
        obtain ⟨m, rest, rfl⟩ := List.exists_cons_of_ne_nil hp
        simp [spell]
      rw [components_append_name text front name, ih (fun m hm => h m (by simp [hm])) hp]
      simp [names]

/-- The path to a directory at a place. -/
def ofDirPlace (place : List String) : Path :=
  if place = [] then ⟨"/"⟩ else ofPlace place

theorem components_ofDirPlace (h : IsPlain place) :
    (ofDirPlace place).components = .root :: names place := by
  unfold ofDirPlace
  split
  · rename_i hp
    subst hp
    decide
  · rename_i hp
    exact components_ofPlace h hp

theorem compare_ofPlace {a b : List String} (ha : IsPlain a) (hb : IsPlain b) (hae : a ≠ [])
    (hbe : b ≠ []) :
    (ofPlace a).compare (ofPlace b) = compareComponents (names a) (names b) := by
  rw [compare, components_ofPlace ha hae, components_ofPlace hb hbe]
  rfl

/-- What is written for a place is written for no other. -/
theorem spell_injective {a b : List String} (ha : IsPlain a) (hb : IsPlain b)
    (h : spell a = spell b) : a = b := by
  have irrefl : ¬ Precedes (spell b) (spell b) := fun hp => hp.asymm hp
  cases hc : compareComponents (names a) (names b) with
  | eq => exact eq_of_names_eq (LawfulEqCmp.eq_of_compare hc)
  | lt =>
    have before := precedes_spell ha.noSeparator hb.noSeparator hc
    exact absurd (h ▸ before) irrefl
  | gt =>
    have behind := precedes_spell hb.noSeparator ha.noSeparator (OrientedCmp.lt_of_gt hc)
    exact absurd (h ▸ behind) irrefl

theorem takeWhile_name {n : List Char} (hn : '/' ∉ n) {s : List Char}
    (hs : ∀ c ∈ s.head?, c = '/') : (n ++ s).takeWhile (· ≠ '/') = n := by
  have all : ∀ c ∈ n, decide (c ≠ '/') = true := fun c hc =>
    decide_eq_true fun e => hn (e ▸ hc)
  rw [List.takeWhile_append_of_pos all]
  cases s with
  | nil => simp
  | cons c s => simp [hs c rfl]

/-- A path lies below a place if and only if its place does. -/
theorem spell_eq_append_iff {a b : List String} (ha : ∀ n ∈ a, '/' ∉ n.toList)
    (hb : ∀ n ∈ b, '/' ∉ n.toList) {rest : List Char} :
    spell b = spell a ++ '/' :: rest ↔
      ∃ n more, b = a ++ n :: more ∧ rest = n.toList ++ spell more := by
  constructor
  · intro h
    induction a generalizing b with
    | nil =>
      cases b with
      | nil => cases h
      | cons n more => exact ⟨n, more, rfl, (List.cons.inj h).2.symm⟩
    | cons m a ih =>
      cases b with
      | nil => cases h
      | cons n b =>
        rw [List.forall_mem_cons] at ha hb
        rw [spell_cons, spell_cons, List.cons_append, List.append_assoc] at h
        have h := (List.cons.inj h).2
        have below : ∀ c ∈ (spell a ++ '/' :: rest).head?, c = '/' := by
          cases a with
          | nil => exact fun c hc => (Option.some.inj hc).symm
          | cons m' a => exact fun c hc => (Option.some.inj hc).symm
        have first := congrArg (List.takeWhile (· ≠ '/')) h
        rw [takeWhile_name hb.1 (head?_spell b), takeWhile_name ha.1 below] at first
        rw [first, List.append_right_inj] at h
        obtain ⟨n', more, rfl, hr⟩ := ih ha.2 hb.2 h
        exact ⟨n', more, by rw [String.toList_injective first, List.cons_append], hr⟩
  · rintro ⟨n, more, rfl, rfl⟩
    simp [spell]

theorem Crosses.of_append {a s t : List Char} (h : Crosses (a ++ s) (a ++ t)) : Crosses s t := by
  induction a with
  | nil => exact h
  | cons e a ih =>
    rcases crosses_cons.1 h with ⟨lower, same⟩ | ⟨-, h⟩
    · exact absurd lower (same ▸ lt_irrefl _)
    · exact ih h

/-- Two files of one directory do not cross. -/
theorem not_crosses_siblings (place : List String) (n : String) {m : String}
    (hm : '/' ∉ m.toList) : ¬ Crosses (spell (place ++ [n])) (spell (place ++ [m])) := by
  intro h
  have split (n : String) : spell (place ++ [n]) = (spell place ++ ['/']) ++ n.toList := by
    simp [spell]
  rw [split, split] at h
  obtain ⟨u, c, v, w, -, ht, -⟩ := h.of_append
  exact hm (by simp [ht])

end PluginForge.Path
