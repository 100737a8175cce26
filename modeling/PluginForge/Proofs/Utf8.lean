/-
Texts as bytes of UTF-8. Nothing is lost by writing them, a text that is put together is written part
by part, and what was written is read again; but a mark at the start of a text is taken for the one
that says that the bytes are UTF-8. Texts are ordered as their bytes are.
-/
import Mathlib.Data.String.Basic
import PluginForge.Encoding.Source

namespace PluginForge.Encoding

theorem toUtf8_injective : Function.Injective toUtf8 := by
  intro s t h
  have bytes : s.toByteArray = t.toByteArray := ByteArray.ext (Array.toList_inj.1 h)
  exact String.toByteArray_inj.1 bytes

theorem toUtf8_append (s t : String) : toUtf8 (s ++ t) = toUtf8 s ++ toUtf8 t := by
  simp only [toUtf8, String.toUTF8, String.toByteArray_append, ByteArray.data_append,
    Array.toList_append]

theorem toUtf8_ofList_append (s t : List Char) :
    toUtf8 (.ofList (s ++ t)) = toUtf8 (.ofList s) ++ toUtf8 (.ofList t) := by
  rw [String.ofList_append, toUtf8_append]

/-- A text that was written can be read. -/
theorem utf8?_toUtf8 (s : String) : utf8? (toUtf8 s) = some s :=
  dif_pos s.isValidUTF8

/-! ## The mark -/

/-- The text without one mark at its start. -/
def unmarked (s : String) : String :=
  match s.toList with
  | '\uFEFF' :: r => .ofList r
  | _ => s

theorem toUtf8_mark : toUtf8 (.ofList ['\uFEFF']) = [0xEF, 0xBB, 0xBF] := by decide +kernel

/-- Bytes of UTF-8 that start with the bytes of the mark start with the mark. -/
theorem eq_mark_of_toUtf8 {c : Char} {r : List Char} {rest : Bytes}
    (h : toUtf8 (.ofList (c :: r)) = 0xEF :: 0xBB :: 0xBF :: rest) : c = '\uFEFF' := by
  have mark : ['\uFEFF'].utf8Encode.data.toList = [0xEF, 0xBB, 0xBF] := toUtf8_mark
  have bytes : (c :: r).utf8Encode = ['\uFEFF'].utf8Encode ++ ⟨rest.toArray⟩ := by
    refine ByteArray.ext (Array.toList_inj.1 ?_)
    rw [ByteArray.data_append, Array.toList_append, mark]
    exact h
  -- The first character is the one that is read from the front of the bytes.
  have first : (c :: r).utf8Encode.utf8DecodeChar? 0 = some c := List.utf8DecodeChar?_utf8Encode_cons
  rw [bytes, List.utf8DecodeChar?_utf8Encode_singleton_append] at first
  exact (Option.some.inj first).symm

/-- Dropping the mark from the bytes of a text is dropping it from the text. -/
theorem withoutMark_toUtf8 (s : String) : withoutMark (toUtf8 s) = toUtf8 (unmarked s) := by
  obtain ⟨l, rfl⟩ : ∃ l, s = .ofList l := ⟨s.toList, s.ofList_toList.symm⟩
  unfold unmarked
  rw [String.toList_ofList]
  split
  · rename_i r
    have split : toUtf8 (.ofList ('\uFEFF' :: r)) = [0xEF, 0xBB, 0xBF] ++ toUtf8 (.ofList r) := by
      rw [← toUtf8_mark]
      exact toUtf8_ofList_append ['\uFEFF'] r
    rw [split]
    rfl
  · rename_i unmarked
    unfold withoutMark
    split
    · rename_i rest h
      cases l with
      | nil => cases h
      | cons c r => exact absurd (congrArg (· :: r) (eq_mark_of_toUtf8 h)) (unmarked r)
    · rfl

/-! ## Order -/

theorem toUtf8_cons (c : Char) (s : List Char) :
    toUtf8 (.ofList (c :: s)) = String.utf8EncodeChar c ++ toUtf8 (.ofList s) := by
  have single : toUtf8 (.ofList [c]) = String.utf8EncodeChar c :=
    (congrArg (·.data.toList) List.utf8Encode_singleton).trans List.toList_data_toByteArray
  rw [← single]
  exact toUtf8_ofList_append [c] s

theorem ofNat_cons_lt_iff {m n : Nat} {r r' : Bytes} (hm : m < 256) (hn : n < 256) :
    UInt8.ofNat m :: r < UInt8.ofNat n :: r' ↔ m < n ∨ m = n ∧ r < r' := by
  rw [List.cons_lt_cons_iff, UInt8.lt_iff_toNat_lt, ← UInt8.toNat_inj, UInt8.toNat_ofNat_of_lt' hm,
    UInt8.toNat_ofNat_of_lt' hn]

/-- The bytes of a character decide before anything that follows them. -/
theorem utf8EncodeChar_lt {c d : Char} (h : c < d) (r r' : Bytes) :
    String.utf8EncodeChar c ++ r < String.utf8EncodeChar d ++ r' := by
  have lower : c.val.toNat < d.val.toNat := h
  have bound : d.val.toNat < 0x110000 := by
    have valid := d.valid
    unfold UInt32.isValidChar Nat.isValidChar at valid
    omega
  unfold String.utf8EncodeChar
  generalize c.val.toNat = m, d.val.toNat = n at lower bound ⊢
  have digits (k : Nat) : k / 4096 = k / 64 / 64 ∧ k / 262144 = k / 64 / 64 / 64 := by omega
  simp only [digits]
  -- A shorter code has a smaller first byte; codes of one length are compared digit by digit.
  repeat' split
  all_goals
    simp only [List.cons_append, List.nil_append]
    repeat rw [ofNat_cons_lt_iff (by omega) (by omega)]
    omega

/-- Texts are ordered as their bytes are. -/
theorem toUtf8_lt {s t : String} (h : s < t) : toUtf8 s < toUtf8 t := by
  obtain ⟨s, rfl⟩ : ∃ l, s = .ofList l := ⟨s.toList, s.ofList_toList.symm⟩
  obtain ⟨t, rfl⟩ : ∃ l, t = .ofList l := ⟨t.toList, t.ofList_toList.symm⟩
  rw [String.lt_iff_toList_lt, String.toList_ofList, String.toList_ofList] at h
  induction s generalizing t with
  | nil =>
    cases t with
    | nil => exact absurd h (lt_irrefl _)
    | cons d t =>
      rw [toUtf8_cons]
      have nonempty : String.utf8EncodeChar d ≠ [] := String.utf8EncodeChar_ne_nil
      obtain ⟨b, bs, hb⟩ := List.exists_cons_of_ne_nil nonempty
      rw [hb]
      exact List.nil_lt_cons _ _
  | cons c s ih =>
    cases t with
    | nil => exact absurd h (List.not_lt_nil _)
    | cons d t =>
      rw [toUtf8_cons, toUtf8_cons]
      rcases List.cons_lt_cons_iff.1 h with first | ⟨rfl, rest⟩
      · exact utf8EncodeChar_lt first _ _
      · exact List.append_left_lt (ih t rest)

end PluginForge.Encoding
