/-
What the reader makes of a written JSON value. `Spells j s` says that a text stands for a value,
with any blanks between its tokens; the compact and the indented writer both give such texts (`Exact`
values only: no doubles, and integers of 64 bits). Reading gives the value back down to the depth
from which on nothing can be used (`Draft.seen`), so all of it if it nests no deeper than that.
-/
import PluginForge.Json.Reader
import PluginForge.Proofs.Numerals

namespace PluginForge.Json

open Chars

namespace Draft

/-! ## Numbers -/

/-- A text that does not go on with a number. -/
def EndsNumber (s : List Char) : Prop :=
  ∀ c ∈ s.head?, c.isDigit = false ∧ c ≠ '.' ∧ c ≠ 'e' ∧ c ≠ 'E'

theorem takeWhile_digits (n : Nat) {rest : List Char} (h : EndsNumber rest) :
    (digits n ++ rest).takeWhile Char.isDigit = digits n ∧
      (digits n ++ rest).dropWhile Char.isDigit = rest := by
  have hd : ∀ c ∈ digits n, c.isDigit = true := fun c hc => isDigit_of_mem_digits hc
  rw [List.takeWhile_append_of_pos hd, List.dropWhile_append_of_pos hd]
  cases rest with
  | nil => simp
  | cons c r =>
    have hc : c.isDigit = false := (h c rfl).1
    simp [hc]

theorem fraction?_of_ends {rest : List Char} (h : EndsNumber rest) :
    fraction? rest = some ([], rest) := by
  unfold fraction?
  split
  · exact absurd rfl (h _ rfl).2.1
  · rfl

theorem exponent?_of_ends {rest : List Char} (h : EndsNumber rest) :
    exponent? rest = some (none, rest) := by
  cases rest with
  | nil => rfl
  | cons c r =>
    obtain ⟨-, -, he, hE⟩ := h c rfl
    simp [exponent?, he, hE]

/-- The digits of a number, with or without a sign, are read as a whole number. -/
theorem number?_digits (negative : Bool) (n : Nat) {rest : List Char} (h : EndsNumber rest) :
    number? ((if negative then ['-'] else []) ++ digits n ++ rest) =
      some (ofWhole negative (digits n), rest) := by
  obtain ⟨htake, hdrop⟩ := takeWhile_digits n h
  obtain ⟨c, r, hcr⟩ := List.exists_cons_of_ne_nil (digits_ne_nil n)
  have hc : c ≠ '-' := by
    rintro rfl
    have hd : ('-' : Char).isDigit = true := isDigit_of_mem_digits (n := n) (by simp [hcr])
    exact absurd hd (by decide)
  have hzero : ((digits n).isEmpty || (digits n).head? = some '0' && 1 < (digits n).length) =
      false := by
    rw [Bool.or_eq_false_iff, Bool.and_eq_false_iff]
    refine ⟨by simp [hcr], ?_⟩
    by_cases hh : (digits n).head? = some '0'
    · have hl := length_digits_of_head? hh
      right
      simp [hl]
    · left
      simpa using hh
  cases negative with
  | false =>
    have hs : number? (digits n ++ rest) = some (ofWhole false (digits n), rest) := by
      unfold number?
      rw [hcr, List.cons_append]
      split
      rename_i sign
      split at sign
      · rename_i he
        exact absurd (List.cons.inj he).1 hc
      · cases sign
        simp [← List.cons_append, ← hcr, htake, hdrop, hzero, fraction?_of_ends h,
          exponent?_of_ends h]
    simpa using hs
  | true =>
    unfold number?
    simp [htake, hdrop, hzero, fraction?_of_ends h, exponent?_of_ends h]

end Draft

/-- An integer that is read as it was written. -/
def IsExactInt (n : Int) : Prop :=
  -(Nat.pow 2 63 : Nat) ≤ n ∧ n < UInt64.size

namespace Draft

theorem number?_writeInt {n : Int} (hn : IsExactInt n) {rest : List Char} (h : EndsNumber rest) :
    number? (writeInt n ++ rest) = some (.int n, rest) := by
  obtain ⟨hlo, hhi⟩ := hn
  by_cases neg : n < 0
  · have hr := number?_digits true n.natAbs h
    have hw : ofWhole true (digits n.natAbs) = .int n := by
      have h1 : 0 < n.natAbs ∧ n.natAbs ≤ Nat.pow 2 63 := by
        have lowest : Nat.pow 2 63 = 9223372036854775808 := rfl
        rw [lowest] at hlo ⊢
        omega
      simp only [ofWhole, ofDigits_digits, if_true, if_pos h1]
      congr 1
      omega
    rw [hw] at hr
    simpa [writeInt, neg] using hr
  · have hr := number?_digits false n.natAbs h
    have hw : ofWhole false (digits n.natAbs) = .int n := by
      have h1 : n.natAbs < UInt64.size := by omega
      simp only [ofWhole, ofDigits_digits, Bool.false_eq_true, if_false, if_pos h1]
      congr 1
      omega
    rw [hw] at hr
    simpa [writeInt, neg] using hr

/-! ## Quoted texts -/

/-- A part that is read from a written character and stands for it. -/
structure IsPieceOf (p : Piece) (c : Char) : Prop where
  read : ∀ done s, pieces? done (escape c ++ s) = pieces? (p :: done) s
  use : ∀ done ps, assemble? done (p :: ps) = assemble? (c :: done) ps

theorem isPieceOf_char {c : Char}
    (read : ∀ done s, pieces? done (escape c ++ s) = pieces? (.char c :: done) s) :
    IsPieceOf (.char c) c where
  read
  use done ps := by simp [assemble?]

theorem isPieceOf_letter {c e : Char} (he : escape c = ['\\', e]) (hu : unescape? e = some c)
    (hne : e ≠ 'u') : IsPieceOf (.char c) c :=
  isPieceOf_char fun done s => by simp [he, pieces?, hu, hne]

theorem isPieceOf_self {c : Char} (he : escape c = [c]) (hq : c ≠ '"') (hb : c ≠ '\\')
    (hn : 32 ≤ c.toNat) : IsPieceOf (.char c) c :=
  isPieceOf_char fun done s => by
    have h : ¬ (c = '\\' ∨ c.toNat < 32) := by simp [hb, hn]
    rw [he, List.singleton_append, pieces?, if_neg h]
    all_goals simp [hq, hb]

theorem isPieceOf_unit {c : Char} (h : c.toNat < 32)
    (he : escape c = '\\' :: 'u' :: '0' :: '0' :: hexPair c.toNat) :
    IsPieceOf (.unit c.toNat) c where
  read done s := by
    have hhigh := hexValue?_digitChar (n := c.toNat / 16 % 16) (by omega)
    have hlow := hexValue?_digitChar (n := c.toNat % 16) (by omega)
    have hzero : hexValue? '0' = some 0 := by decide
    have hn : 4096 * 0 + 256 * 0 + 16 * (c.toNat / 16 % 16) + c.toNat % 16 = c.toNat := by omega
    rw [he, hexPair]
    simp only [List.cons_append, List.nil_append, pieces?, hhigh, hlow, hzero, hn]
  use done ps := by
    have h1 : ¬ (0xD800 ≤ c.toNat ∧ c.toNat < 0xDC00) := by omega
    have h2 : ¬ (0xDC00 ≤ c.toNat ∧ c.toNat < 0xE000) := by omega
    rw [assemble?.eq_def]
    simp only [if_neg h1, if_neg h2, Char.ofNat_toNat]

theorem exists_isPieceOf (c : Char) : ∃ p, IsPieceOf p c := by
  by_cases letter : c ∈ ['"', '\\', '\n', '\r', '\t', '\x08', '\x0c']
  · simp only [List.mem_cons, List.not_mem_nil, or_false] at letter
    rcases letter with rfl | rfl | rfl | rfl | rfl | rfl | rfl
    all_goals exact ⟨_, isPieceOf_letter rfl rfl (by decide)⟩
  · simp only [List.mem_cons, List.not_mem_nil, or_false, not_or] at letter
    obtain ⟨hq, hb, hn, hr, ht, h8, h12⟩ := letter
    have h8 : c.toNat ≠ 8 := fun h => h8 (by rw [← Char.ofNat_toNat c, h])
    have h12 : c.toNat ≠ 12 := fun h => h12 (by rw [← Char.ofNat_toNat c, h])
    by_cases control : c.toNat < 32
    · exact ⟨_, isPieceOf_unit control (by simp [escape, hq, hb, hn, hr, ht, h8, h12, control])⟩
    · have he : escape c = [c] := by simp [escape, hq, hb, hn, hr, ht, h8, h12, control]
      exact ⟨_, isPieceOf_self he hq hb (by omega)⟩

/-- The parts of a written text, up to the quote behind it, are those of its characters. -/
theorem pieces?_flatMap (s : List Char) : ∃ ps,
    (∀ done rest, pieces? done (s.flatMap escape ++ '"' :: rest) =
        some (done.reverse ++ ps, rest)) ∧
      ∀ done, assemble? done ps = some (done.reverse ++ s) := by
  induction s with
  | nil => exact ⟨[], fun done rest => by simp [pieces?], fun done => by simp [assemble?]⟩
  | cons c s ih =>
    obtain ⟨p, hp⟩ := exists_isPieceOf c
    obtain ⟨ps, read, use⟩ := ih
    refine ⟨p :: ps, fun done rest => ?_, fun done => ?_⟩
    · rw [List.flatMap_cons, List.append_assoc, hp.read, read]
      simp
    · rw [hp.use, use]
      simp

theorem quoted?_escaped (s : String) (rest : List Char) :
    quoted? (s.toList.flatMap escape ++ '"' :: rest) = some (some s, rest) := by
  obtain ⟨ps, read, use⟩ := pieces?_flatMap s.toList
  have hr := read [] rest
  have hu := use []
  rw [List.reverse_nil, List.nil_append] at hr hu
  simp only [quoted?, hr, hu, Option.map_some, String.ofList_toList]

end Draft

/-! ## Spellings -/

/-- A stretch that may stand between tokens. -/
def IsGap (w : List Char) : Prop :=
  ∀ c ∈ w, c = ' ' ∨ c = '\n' ∨ c = '\t' ∨ c = '\r'

mutual

/-- A text that stands for a value, with gaps around its tokens. -/
inductive Spells : Json → List Char → Prop
  | null : Spells .null "null".toList
  | bool (b : Bool) : Spells (.bool b) (if b then "true" else "false").toList
  | int {n : Int} (exact : IsExactInt n) : Spells (.int n) (writeInt n)
  | str (s : String) : Spells (.str s) (quote s)
  | noItems : Spells (.arr []) ['[', ']']
  | arr {items s} (h : SpellsItems items s) : Spells (.arr items) ('[' :: s ++ [']'])
  | noMembers : Spells (.obj []) ['\x7b', '\x7d']
  | obj {members s} (h : SpellsMembers members s) :
      Spells (.obj members) ('\x7b' :: s ++ ['\x7d'])

inductive SpellsItems : List Json → List Char → Prop
  | last {j w s w'} (before : IsGap w) (value : Spells j s) (behind : IsGap w') :
      SpellsItems [j] (w ++ s ++ w')
  | cons {j items w s w' t} (before : IsGap w) (value : Spells j s) (behind : IsGap w')
      (rest : SpellsItems items t) : SpellsItems (j :: items) (w ++ s ++ w' ++ ',' :: t)

inductive SpellsMembers : List (String × Json) → List Char → Prop
  | last {k j w w' v s w''} (before : IsGap w) (named : IsGap w') (marked : IsGap v)
      (value : Spells j s) (behind : IsGap w'') :
      SpellsMembers [(k, j)] (w ++ quote k ++ w' ++ ':' :: (v ++ s ++ w''))
  | cons {k j members w w' v s w'' t} (before : IsGap w) (named : IsGap w') (marked : IsGap v)
      (value : Spells j s) (behind : IsGap w'') (rest : SpellsMembers members t) :
      SpellsMembers ((k, j) :: members)
        (w ++ quote k ++ w' ++ ':' :: (v ++ s ++ w'' ++ ',' :: t))

end

namespace Draft

theorem skipSpace_append {w : List Char} (h : IsGap w) (s : List Char) :
    skipSpace (w ++ s) = skipSpace s := by
  refine List.dropWhile_append_of_pos fun c hc => ?_
  rcases h c hc with rfl | rfl | rfl | rfl <;> rfl

theorem skipSpace_skipSpace (s : List Char) : skipSpace (skipSpace s) = skipSpace s := by
  induction s with
  | nil => rfl
  | cons c s ih =>
    unfold skipSpace at ih ⊢
    rw [List.dropWhile_cons]
    split
    · exact ih
    · rename_i hc
      rw [List.dropWhile_cons, if_neg hc]

/-! ## Reading at a depth -/

mutual

/-- What is seen of a value inside `depth` arrays and objects. -/
def seen (depth : Nat) : Json → Draft
  | .null => .null
  | .bool b => .bool b
  | .int n => .int n
  | .double negative size => .double negative size
  | .str s => .str s
  | .arr items => atDepth depth (.arr (seenItems (depth + 1) items))
  | .obj members => atDepth depth (.obj (seenMembers (depth + 1) members))

def seenItems (depth : Nat) : List Json → List Draft
  | [] => []
  | j :: rest => seen depth j :: seenItems depth rest

def seenMembers (depth : Nat) : List (String × Json) → List (Option String × Draft)
  | [] => []
  | (k, j) :: rest => (some k, seen depth j) :: seenMembers depth rest

end

theorem value?_skipSpace (fuel depth : Nat) (s : List Char) :
    value? fuel depth (skipSpace s) = value? fuel depth s := by
  cases fuel with
  | zero => rfl
  | succ fuel =>
    unfold value?
    rw [skipSpace_skipSpace]

theorem items?_skipSpace (fuel depth : Nat) (s : List Char) :
    items? fuel depth (skipSpace s) = items? fuel depth s := by
  cases fuel with
  | zero => rfl
  | succ fuel =>
    unfold items?
    rw [value?_skipSpace]

theorem members?_skipSpace (fuel depth : Nat) (s : List Char) :
    members? fuel depth (skipSpace s) = members? fuel depth s := by
  cases fuel with
  | zero => rfl
  | succ fuel =>
    unfold members?
    rw [skipSpace_skipSpace]

/-! ## Reading what is spelled -/

/-- A character that no gap begins with. -/
def IsSolid (c : Char) : Prop :=
  c ≠ ' ' ∧ c ≠ '\n' ∧ c ≠ '\t' ∧ c ≠ '\r'

instance (c : Char) : Decidable (IsSolid c) :=
  inferInstanceAs (Decidable (_ ∧ _))

theorem skipSpace_cons {c : Char} (h : IsSolid c) (s : List Char) :
    skipSpace (c :: s) = c :: s := by
  obtain ⟨h1, h2, h3, h4⟩ := h
  simp [skipSpace, h1, h2, h3, h4]

theorem skipSpace_gap {w : List Char} (h : IsGap w) {c : Char} (hc : IsSolid c) (s : List Char) :
    skipSpace (w ++ c :: s) = c :: s := by
  rw [skipSpace_append h, skipSpace_cons hc]

theorem endsNumber_gap {w : List Char} (h : IsGap w) {s : List Char} (hs : EndsNumber s) :
    EndsNumber (w ++ s) := by
  cases w with
  | nil => exact hs
  | cons c w =>
    rintro d hd
    obtain rfl : c = d := by simpa using hd
    rcases h c List.mem_cons_self with rfl | rfl | rfl | rfl <;> decide

theorem endsNumber_cons {c : Char} (h : c ∈ [',', ']', '\x7d']) (s : List Char) :
    EndsNumber (c :: s) := by
  rintro d hd
  obtain rfl : c = d := by simpa using hd
  simp only [List.mem_cons, List.not_mem_nil, or_false] at h
  rcases h with rfl | rfl | rfl <;> decide

/-- The characters that numbers begin with. -/
theorem head_writeInt (n : Int) : ∃ c r, writeInt n = c :: r ∧ (c.isDigit = true ∨ c = '-') := by
  unfold writeInt
  split
  · exact ⟨'-', _, rfl, .inr rfl⟩
  · obtain ⟨c, r, hcr⟩ := List.exists_cons_of_ne_nil (digits_ne_nil n.natAbs)
    exact ⟨c, r, hcr, .inl (isDigit_of_mem_digits (n := n.natAbs) (by simp [hcr]))⟩

theorem isSolid_of_number {c : Char} (h : c.isDigit = true ∨ c = '-') : IsSolid c := by
  refine ⟨?_, ?_, ?_, ?_⟩ <;> rintro rfl <;> revert h <;> decide

theorem value?_number {c : Char} (h : c.isDigit = true ∨ c = '-') (fuel depth : Nat)
    (s : List Char) : value? (fuel + 1) depth (c :: s) = number? (c :: s) := by
  unfold value?
  rw [skipSpace_cons (isSolid_of_number h)]
  split
  all_goals first
    | rfl
    | (rename_i he; obtain ⟨rfl, -⟩ := List.cons.inj he; exact absurd h (by decide))

/-- What every value begins with. -/
theorem head_of_spells {j : Json} {s : List Char} (h : Spells j s) :
    ∃ c r, s = c :: r ∧ IsSolid c ∧ c ≠ ']' := by
  cases h with
  | null => exact ⟨_, _, rfl, by decide, by decide⟩
  | bool b => cases b <;> exact ⟨_, _, rfl, by decide, by decide⟩
  | @int n =>
    obtain ⟨c, r, hc, hn⟩ := head_writeInt n
    refine ⟨c, r, hc, isSolid_of_number hn, ?_⟩
    rintro rfl
    revert hn
    decide
  | str | noItems | arr | noMembers | obj => exact ⟨_, _, rfl, by decide, by decide⟩

/-- The readers give what is seen of spelled values, where the fuel is enough for the text. -/
structure Reads (fuel : Nat) : Prop where
  value {j s} (h : Spells j s) (enough : 2 * s.length ≤ fuel) (depth : Nat) {rest : List Char}
    (ends : EndsNumber rest) : value? fuel depth (s ++ rest) = some (seen depth j, rest)
  items {js s} (h : SpellsItems js s) (enough : 2 * s.length + 1 ≤ fuel) (depth : Nat)
    (rest : List Char) : items? fuel depth (s ++ ']' :: rest) = some (seenItems depth js, rest)
  members {ms s} (h : SpellsMembers ms s) (enough : 2 * s.length + 1 ≤ fuel) (depth : Nat)
    (rest : List Char) :
    members? fuel depth (s ++ '\x7d' :: rest) = some (seenMembers depth ms, rest)

theorem value?_quote (fuel depth : Nat) (t : String) (rest : List Char) :
    value? (fuel + 1) depth (quote t ++ rest) = some (.str t, rest) := by
  have hq : quote t ++ rest = '"' :: (t.toList.flatMap escape ++ '"' :: rest) := by simp [quote]
  rw [hq]
  unfold value?
  rw [skipSpace_cons (by decide)]
  simp only [quoted?_escaped, Option.map_some, Option.getD_some]

theorem value?_items {fuel depth : Nat} {s t : List Char} {ds : List Draft} {r : List Char}
    {c : Char} (hs : skipSpace s = c :: t) (hc : c ≠ ']')
    (h : items? fuel (depth + 1) s = some (ds, r)) :
    value? (fuel + 1) depth ('[' :: s) = some (atDepth depth (.arr ds), r) := by
  rw [← items?_skipSpace, hs] at h
  unfold value?
  rw [skipSpace_cons (by decide)]
  simp only [hs]
  split
  · rename_i he
    exact absurd (List.cons.inj he).1 hc
  · rw [h, Option.map_some]

theorem value?_members {fuel depth : Nat} {s t : List Char} {ms : List (Option String × Draft)}
    {r : List Char} {c : Char} (hs : skipSpace s = c :: t) (hc : c ≠ '\x7d')
    (h : members? fuel (depth + 1) s = some (ms, r)) :
    value? (fuel + 1) depth ('\x7b' :: s) = some (atDepth depth (.obj ms), r) := by
  rw [← members?_skipSpace, hs] at h
  unfold value?
  rw [skipSpace_cons (by decide)]
  simp only [hs]
  split
  · rename_i he
    exact absurd (List.cons.inj he).1 hc
  · rw [h, Option.map_some]

theorem head_of_spellsItems {js : List Json} {s : List Char} (h : SpellsItems js s)
    (rest : List Char) : ∃ c t, skipSpace (s ++ rest) = c :: t ∧ c ≠ ']' := by
  have gapped {j : Json} {w v : List Char} (before : IsGap w) (value : Spells j v)
      (r : List Char) : ∃ c t, skipSpace (w ++ (v ++ r)) = c :: t ∧ c ≠ ']' := by
    obtain ⟨c, t, rfl, hc, hne⟩ := head_of_spells value
    exact ⟨c, t ++ r, skipSpace_gap before hc (t ++ r), hne⟩
  cases h with
  | last before value behind | cons before value behind rest =>
    simp only [List.append_assoc]
    exact gapped before value _

theorem head_of_spellsMembers {ms : List (String × Json)} {s : List Char} (h : SpellsMembers ms s)
    (rest : List Char) : ∃ c t, skipSpace (s ++ rest) = c :: t ∧ c ≠ '\x7d' := by
  have quoted {w : List Char} (before : IsGap w) (k : String) (r : List Char) :
      ∃ c t, skipSpace (w ++ (quote k ++ r)) = c :: t ∧ c ≠ '\x7d' :=
    ⟨'"', _, skipSpace_gap before (by decide) _, by decide⟩
  cases h with
  | last before | cons before =>
    simp only [List.append_assoc]
    exact quoted before _ _

namespace Reads

variable {fuel : Nat}

theorem value_succ (h : Reads fuel) {j : Json} {s : List Char} (hs : Spells j s)
    (enough : 2 * s.length ≤ fuel + 1) (depth : Nat) {rest : List Char} (ends : EndsNumber rest) :
    value? (fuel + 1) depth (s ++ rest) = some (seen depth j, rest) := by
  cases hs with
  | null => rfl
  | bool b => cases b <;> rfl
  | @int n exact =>
    obtain ⟨c, r, hc, hn⟩ := head_writeInt n
    have hr := number?_writeInt exact ends
    rw [hc, List.cons_append] at hr ⊢
    rw [value?_number hn, hr]
    rfl
  | str t => exact value?_quote fuel depth t rest
  | noItems => rfl
  | noMembers => rfl
  | @arr items s hi =>
    obtain ⟨c, t, hc, hne⟩ := head_of_spellsItems hi (']' :: rest)
    have enough : 2 * s.length + 1 ≤ fuel := by
      simp only [List.length_append, List.length_cons, List.length_nil] at enough
      omega
    have hr := h.items hi enough (depth + 1) rest
    have ht : '[' :: s ++ [']'] ++ rest = '[' :: (s ++ ']' :: rest) := by simp
    rw [ht, value?_items hc hne hr]
    rfl
  | @obj members s hm =>
    obtain ⟨c, t, hc, hne⟩ := head_of_spellsMembers hm ('\x7d' :: rest)
    have enough : 2 * s.length + 1 ≤ fuel := by
      simp only [List.length_append, List.length_cons, List.length_nil] at enough
      omega
    have hr := h.members hm enough (depth + 1) rest
    have ht : '\x7b' :: s ++ ['\x7d'] ++ rest = '\x7b' :: (s ++ '\x7d' :: rest) := by simp
    rw [ht, value?_members hc hne hr]
    rfl

/-- A value between gaps, and what is left behind it. -/
theorem gapped (h : Reads fuel) {w w' s : List Char} {j : Json} (before : IsGap w)
    (value : Spells j s) (behind : IsGap w') (enough : 2 * s.length ≤ fuel) (depth : Nat)
    {c : Char} (hc : c ∈ [',', ']', '\x7d']) (rest : List Char) :
    ∃ r, value? fuel depth (w ++ s ++ w' ++ c :: rest) = some (seen depth j, r) ∧
      skipSpace r = c :: rest := by
  have hr := h.value value enough depth (endsNumber_gap behind (endsNumber_cons hc rest))
  have hsolid : IsSolid c := by
    simp only [List.mem_cons, List.not_mem_nil, or_false] at hc
    rcases hc with rfl | rfl | rfl <;> decide
  refine ⟨w' ++ c :: rest, ?_, skipSpace_gap behind hsolid rest⟩
  rw [← value?_skipSpace, List.append_assoc, List.append_assoc, skipSpace_append before,
    value?_skipSpace, hr]

theorem items_succ (h : Reads fuel) {js : List Json} {s : List Char} (hs : SpellsItems js s)
    (enough : 2 * s.length + 1 ≤ fuel + 1) (depth : Nat) (rest : List Char) :
    items? (fuel + 1) depth (s ++ ']' :: rest) = some (seenItems depth js, rest) := by
  cases hs with
  | @last j w s w' before value behind =>
    have enough : 2 * s.length ≤ fuel := by
      simp only [List.length_append] at enough
      omega
    obtain ⟨r, hv, hr⟩ := h.gapped before value behind enough depth (c := ']') (by decide) rest
    unfold items?
    simp only [hv, hr]
    rfl
  | @cons j items w s w' t before value behind others =>
    have enough : 2 * s.length ≤ fuel ∧ 2 * t.length + 1 ≤ fuel := by
      simp only [List.length_append, List.length_cons] at enough
      omega
    obtain ⟨r, hv, hr⟩ := h.gapped before value behind enough.1 depth (c := ',') (by decide)
      (t ++ ']' :: rest)
    have ht : w ++ s ++ w' ++ ',' :: t ++ ']' :: rest =
        w ++ s ++ w' ++ ',' :: (t ++ ']' :: rest) := by simp
    unfold items?
    simp only [ht, hv, hr, h.items others enough.2 depth rest, Option.map_some]
    rfl

theorem members_succ (h : Reads fuel) {ms : List (String × Json)} {s : List Char}
    (hs : SpellsMembers ms s) (enough : 2 * s.length + 1 ≤ fuel + 1) (depth : Nat)
    (rest : List Char) :
    members? (fuel + 1) depth (s ++ '\x7d' :: rest) = some (seenMembers depth ms, rest) := by
  have name {w w' : List Char} (before : IsGap w) (named : IsGap w') (k : String)
      (r : List Char) : ∃ t r', skipSpace (w ++ (quote k ++ (w' ++ ':' :: r))) = '"' :: t ∧
        quoted? t = some (some k, r') ∧ skipSpace r' = ':' :: r :=
    ⟨k.toList.flatMap escape ++ '"' :: (w' ++ ':' :: r), w' ++ ':' :: r,
      by simpa [quote] using skipSpace_gap before (by decide) _, quoted?_escaped k _,
      skipSpace_gap named (by decide) r⟩
  cases hs with
  | @last k j w w' v s w'' before named marked value behind =>
    have enough : 2 * s.length ≤ fuel := by
      simp only [List.length_append, List.length_cons] at enough
      omega
    obtain ⟨r, hv, hr⟩ := h.gapped marked value behind enough depth (c := '\x7d') (by decide) rest
    obtain ⟨t, r', hs, hq, hm⟩ := name before named k (v ++ s ++ w'' ++ '\x7d' :: rest)
    have ht : w ++ quote k ++ w' ++ ':' :: (v ++ s ++ w'') ++ '\x7d' :: rest =
        w ++ (quote k ++ (w' ++ ':' :: (v ++ s ++ w'' ++ '\x7d' :: rest))) := by simp
    unfold members?
    simp only [ht, hs, hq, hm, hv, hr]
    rfl
  | @cons k j members w w' v s w'' t before named marked value behind others =>
    have enough : 2 * s.length ≤ fuel ∧ 2 * t.length + 1 ≤ fuel := by
      simp only [List.length_append, List.length_cons] at enough
      omega
    obtain ⟨r, hv, hr⟩ := h.gapped marked value behind enough.1 depth (c := ',') (by decide)
      (t ++ '\x7d' :: rest)
    obtain ⟨u, r', hs, hq, hm⟩ :=
      name before named k (v ++ s ++ w'' ++ ',' :: (t ++ '\x7d' :: rest))
    have ht : w ++ quote k ++ w' ++ ':' :: (v ++ s ++ w'' ++ ',' :: t) ++ '\x7d' :: rest =
        w ++ (quote k ++ (w' ++ ':' :: (v ++ s ++ w'' ++ ',' :: (t ++ '\x7d' :: rest)))) := by simp
    unfold members?
    simp only [ht, hs, hq, hm, hv, hr, h.members others enough.2 depth rest, Option.map_some]
    rfl

end Reads

theorem reads (fuel : Nat) : Reads fuel := by
  induction fuel with
  | zero =>
    refine ⟨fun h enough => ?_, fun h enough => ?_, fun h enough => ?_⟩
    · obtain ⟨c, r, rfl, -⟩ := head_of_spells h
      simp at enough
    · omega
    · omega
  | succ fuel ih => exact ⟨ih.value_succ, ih.items_succ, ih.members_succ⟩

theorem read?_of_spells {j : Json} {s : List Char} (h : Spells j s) :
    read? (.ofList s) = some (seen 0 j) := by
  have hr := @(reads (2 * s.length + 2)).value j s h (by omega) 0 [] (by simp [EndsNumber])
  rw [List.append_nil] at hr
  simp only [read?, String.toList_ofList, hr]
  rfl

end Draft

/-! ## Writing -/

/-- A value that is read as it was written: its numbers are integers of 64 bits. -/
inductive Exact : Json → Prop
  | null : Exact .null
  | bool (b : Bool) : Exact (.bool b)
  | int {n : Int} (h : IsExactInt n) : Exact (.int n)
  | str (s : String) : Exact (.str s)
  | arr {items : List Json} (h : ∀ j ∈ items, Exact j) : Exact (.arr items)
  | obj {members : List (String × Json)} (h : ∀ m ∈ members, Exact m.2) : Exact (.obj members)

theorem isGap_nil : IsGap [] := by simp [IsGap]

theorem isGap_indent (depth : Nat) : IsGap (indent depth) := by
  intro c hc
  rcases List.mem_cons.1 hc with rfl | hc
  · exact .inr (.inl rfl)
  · exact .inl (List.eq_of_mem_replicate hc)

theorem spellsItems_writeItems {items : List Json} (hne : items ≠ [])
    (h : ∀ j ∈ items, Spells j j.write) : SpellsItems items (writeItems items) := by
  induction items with
  | nil => exact absurd rfl hne
  | cons j rest ih =>
    have hj := h j List.mem_cons_self
    cases rest with
    | nil => simpa [writeItems] using SpellsItems.last isGap_nil hj isGap_nil
    | cons k rest =>
      have hr := ih (List.cons_ne_nil k rest) fun i hi => h i (List.mem_cons_of_mem _ hi)
      simpa [writeItems] using SpellsItems.cons isGap_nil hj isGap_nil hr

theorem spellsMembers_writeMembers {members : List (String × Json)} (hne : members ≠ [])
    (h : ∀ m ∈ members, Spells m.2 m.2.write) : SpellsMembers members (writeMembers members) := by
  induction members with
  | nil => exact absurd rfl hne
  | cons m rest ih =>
    have hm := h m List.mem_cons_self
    cases rest with
    | nil =>
      simpa [writeMembers] using
        SpellsMembers.last (k := m.1) isGap_nil isGap_nil isGap_nil hm isGap_nil
    | cons k rest =>
      have hr := ih (List.cons_ne_nil k rest) fun i hi => h i (List.mem_cons_of_mem _ hi)
      simpa [writeMembers] using
        SpellsMembers.cons (k := m.1) isGap_nil isGap_nil isGap_nil hm isGap_nil hr

/-- The compact text of a value stands for it. -/
theorem spells_write {j : Json} (h : Exact j) : Spells j j.write := by
  induction h with
  | null => exact .null
  | bool b => exact .bool b
  | int exact => exact .int exact
  | str s => exact .str s
  | @arr items _ ih =>
    by_cases hne : items = []
    · subst hne
      exact .noItems
    · exact .arr (spellsItems_writeItems hne ih)
  | @obj members _ ih =>
    by_cases hne : members = []
    · subst hne
      exact .noMembers
    · exact .obj (spellsMembers_writeMembers hne ih)

theorem spellsItems_prettyItems {items : List Json} (hne : items ≠ []) {depth : Nat}
    (h : ∀ j ∈ items, Spells j (j.writePretty depth)) {w : List Char} (hw : IsGap w) :
    SpellsItems items (prettyItems depth items ++ w) := by
  have hi := isGap_indent depth
  induction items with
  | nil => exact absurd rfl hne
  | cons j rest ih =>
    have hj := h j List.mem_cons_self
    cases rest with
    | nil => simpa [prettyItems] using SpellsItems.last hi hj hw
    | cons k rest =>
      have hr := ih (List.cons_ne_nil k rest) fun i hi => h i (List.mem_cons_of_mem _ hi)
      simpa [prettyItems] using SpellsItems.cons hi hj isGap_nil hr

theorem spellsMembers_prettyMembers {members : List (String × Json)} (hne : members ≠ [])
    {depth : Nat} (h : ∀ m ∈ members, Spells m.2 (m.2.writePretty depth)) {w : List Char}
    (hw : IsGap w) : SpellsMembers members (prettyMembers depth members ++ w) := by
  have hi := isGap_indent depth
  have hs : IsGap [' '] := by simp [IsGap]
  induction members with
  | nil => exact absurd rfl hne
  | cons m rest ih =>
    have hm := h m List.mem_cons_self
    cases rest with
    | nil =>
      simpa [prettyMembers] using SpellsMembers.last (k := m.1) hi isGap_nil hs hm hw
    | cons k rest =>
      have hr := ih (List.cons_ne_nil k rest) fun i hi => h i (List.mem_cons_of_mem _ hi)
      simpa [prettyMembers] using
        SpellsMembers.cons (k := m.1) hi isGap_nil hs hm isGap_nil hr

/-- The text of a value over several lines stands for it. -/
theorem spells_writePretty {j : Json} (h : Exact j) (depth : Nat) :
    Spells j (j.writePretty depth) := by
  induction h generalizing depth with
  | null => exact .null
  | bool b => exact .bool b
  | int exact => exact .int exact
  | str s => exact .str s
  | @arr items _ ih =>
    cases items with
    | nil => exact .noItems
    | cons j rest =>
      have hi := spellsItems_prettyItems (List.cons_ne_nil j rest)
        (fun i hi => ih i hi (depth + 1)) (isGap_indent depth)
      simpa [writePretty] using Spells.arr hi
  | @obj members _ ih =>
    cases members with
    | nil => exact .noMembers
    | cons m rest =>
      have hm := spellsMembers_prettyMembers (List.cons_ne_nil m rest)
        (fun i hi => ih i hi (depth + 1)) (isGap_indent depth)
      simpa [writePretty] using Spells.obj hm

/-! ## Nesting -/

mutual

/-- How deep the arrays and objects of a value nest. -/
def nesting : Json → Nat
  | .arr items => nestingOfItems items + 1
  | .obj members => nestingOfMembers members + 1
  | _ => 0

def nestingOfItems : List Json → Nat
  | [] => 0
  | j :: rest => max j.nesting (nestingOfItems rest)

def nestingOfMembers : List (String × Json) → Nat
  | [] => 0
  | (_, j) :: rest => max j.nesting (nestingOfMembers rest)

end

namespace Draft

mutual

/-- All of a value is seen that nests no deeper than what can be used. -/
theorem seen_eq_ofJson {depth : Nat} : (j : Json) → depth + j.nesting ≤ maxDepth →
    seen depth j = ofJson j
  | .null, _ | .bool _, _ | .int _, _ | .double .., _ | .str _, _ => rfl
  | .arr items, h => by
    rw [nesting] at h
    rw [seen, seenItems_eq_ofItems items (by omega), atDepth, if_pos (by omega), ofJson]
  | .obj members, h => by
    rw [nesting] at h
    rw [seen, seenMembers_eq_ofMembers members (by omega), atDepth, if_pos (by omega), ofJson]

theorem seenItems_eq_ofItems {depth : Nat} : (items : List Json) →
    depth + nestingOfItems items ≤ maxDepth → seenItems depth items = ofItems items
  | [], _ => rfl
  | j :: rest, h => by
    rw [nestingOfItems] at h
    rw [seenItems, seen_eq_ofJson j (by omega), seenItems_eq_ofItems rest (by omega), ofItems]

theorem seenMembers_eq_ofMembers {depth : Nat} : (members : List (String × Json)) →
    depth + nestingOfMembers members ≤ maxDepth → seenMembers depth members = ofMembers members
  | [], _ => rfl
  | (k, j) :: rest, h => by
    rw [nestingOfMembers] at h
    rw [seenMembers, seen_eq_ofJson j (by omega), seenMembers_eq_ofMembers rest (by omega),
      ofMembers]

end

mutual

/-- A value that nests deeper than what can be used is not seen as one all of which can be used. -/
theorem toJson?_seen {depth : Nat} (hd : depth ≤ maxDepth) : (j : Json) →
    maxDepth < depth + j.nesting → (seen depth j).toJson? = none
  | .null, h | .bool _, h | .int _, h | .double .., h | .str _, h => by
    simp only [nesting] at h
    omega
  | .arr items, h => by
    rw [nesting] at h
    rw [seen, atDepth]
    split
    · rw [toJson?, itemsToJson?_seenItems (by omega) items (by omega), Option.map_none]
    · rw [toJson?]
  | .obj members, h => by
    rw [nesting] at h
    rw [seen, atDepth]
    split
    · rw [toJson?, membersToJson?_seenMembers (by omega) members (by omega), Option.map_none]
    · rw [toJson?]

theorem itemsToJson?_seenItems {depth : Nat} (hd : depth ≤ maxDepth) : (items : List Json) →
    maxDepth < depth + nestingOfItems items → itemsToJson? (seenItems depth items) = none
  | [], h => by
    rw [nestingOfItems] at h
    omega
  | j :: rest, h => by
    rw [nestingOfItems] at h
    rw [seenItems, itemsToJson?]
    by_cases hj : maxDepth < depth + j.nesting
    · simp [toJson?_seen hd j hj]
    · have hr := itemsToJson?_seenItems hd rest (by omega)
      simp [hr]

theorem membersToJson?_seenMembers {depth : Nat} (hd : depth ≤ maxDepth) :
    (members : List (String × Json)) → maxDepth < depth + nestingOfMembers members →
    membersToJson? (seenMembers depth members) = none
  | [], h => by
    rw [nestingOfMembers] at h
    omega
  | (k, j) :: rest, h => by
    rw [nestingOfMembers] at h
    rw [seenMembers, membersToJson?]
    by_cases hj : maxDepth < depth + j.nesting
    · simp [toJson?_seen hd j hj]
    · have hr := membersToJson?_seenMembers hd rest (by omega)
      simp [hr]

end

mutual

/-- All of a value can be used. -/
theorem usable_ofJson : (j : Json) → (ofJson j).usable = true
  | .null | .bool _ | .int _ | .double .. | .str _ => rfl
  | .arr items => by
    have h := isSome_itemsToJson? items
    simpa [usable, ofJson, toJson?] using h
  | .obj members => by
    have h := isSome_membersToJson? members
    simpa [usable, ofJson, toJson?] using h

theorem isSome_itemsToJson? : (items : List Json) → (itemsToJson? (ofItems items)).isSome = true
  | [] => rfl
  | j :: rest => by
    obtain ⟨a, ha⟩ := Option.isSome_iff_exists.1 (usable_ofJson j)
    obtain ⟨b, hb⟩ := Option.isSome_iff_exists.1 (isSome_itemsToJson? rest)
    simp [ofItems, itemsToJson?, ha, hb]

theorem isSome_membersToJson? : (members : List (String × Json)) →
    (membersToJson? (ofMembers members)).isSome = true
  | [] => rfl
  | (k, j) :: rest => by
    obtain ⟨a, ha⟩ := Option.isSome_iff_exists.1 (usable_ofJson j)
    obtain ⟨b, hb⟩ := Option.isSome_iff_exists.1 (isSome_membersToJson? rest)
    simp [ofMembers, membersToJson?, ha, hb]

end

end Draft

end PluginForge.Json
