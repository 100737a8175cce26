/-
The characters of two bytes in GB 18030. Their rows leave no gap, so that every lead byte with every
trail byte stands for a character, and the replacement character is not among them.
-/
import Mathlib.Algebra.GroupWithZero.Nat
import PluginForge.Encoding.Gb18030

namespace PluginForge.Gb18030

/-- Rows of characters and the characters in them. -/
inductive Spelled : List String → List (List Char) → Prop
  | nil : Spelled [] []
  | cons (cs : List Char) {rows : List String} {spelled : List (List Char)}
      (h : Spelled rows spelled) : Spelled (String.ofList cs :: rows) (cs :: spelled)

theorem Spelled.flatMap_toList {rows : List String} {spelled : List (List Char)}
    (h : Spelled rows spelled) : rows.flatMap String.toList = spelled.flatten := by
  induction h with
  | nil => rfl
  | cons cs _ ih => rw [List.flatMap_cons, List.flatten_cons, String.toList_ofList, ih]

-- A row is taken apart where it is matched with the characters that spell it: to compute the
-- characters from it, each would have to be decoded from the bytes of the row.
set_option maxRecDepth 20000 in
theorem exists_spelled_twoByteRows : ∃ spelled, Spelled twoByteRows spelled ∧
    (spelled.map List.length).sum = 23940 ∧
    (spelled.all fun cs => cs.all fun c => ! c.val.toNat.beq 0xFFFD) = true := by
  apply Exists.intro
  apply And.intro
  · simp only [twoByteRows]
    repeat apply Spelled.cons
    exact .nil
  · decide +kernel

theorem size_twoByteTable : twoByteTable.size = 23940 := by
  obtain ⟨spelled, h, length, -⟩ := exists_spelled_twoByteRows
  rw [twoByteTable, h.flatMap_toList, List.size_toArray, List.length_flatten, length]

theorem ne_replacement_of_mem_twoByteTable {c : Char} (hc : c ∈ twoByteTable) : c ≠ '\uFFFD' := by
  obtain ⟨spelled, h, -, clean⟩ := exists_spelled_twoByteRows
  rw [twoByteTable, h.flatMap_toList, List.mem_toArray] at hc
  obtain ⟨cs, hcs, hc⟩ := List.mem_flatten.1 hc
  rintro rfl
  exact absurd (List.all_eq_true.1 (List.all_eq_true.1 clean cs hcs) _ hc) (by decide)

/-- A lead byte and a trail byte stand for a character, which is not the replacement character. -/
theorem exists_twoByte {lead trail : UInt8} (led : 0x81 ≤ lead ∧ lead ≤ 0xFE)
    (trailed : 0x40 ≤ trail ∧ trail ≤ 0x7E ∨ 0x80 ≤ trail ∧ trail ≤ 0xFE) :
    ∃ c, twoByte? lead trail = some c ∧ c ≠ '\uFFFD' := by
  have entry {n : Nat} (hn : n < 23940) : ∃ c, twoByteTable[n]? = some c ∧ c ≠ '\uFFFD' := by
    have within : n < twoByteTable.size := by rwa [size_twoByteTable]
    exact ⟨twoByteTable[n], Array.getElem?_eq_getElem within,
      ne_replacement_of_mem_twoByteTable (Array.getElem_mem within)⟩
  simp only [UInt8.le_iff_toNat_le, UInt8.reduceToNat] at led trailed
  unfold twoByte?
  simp only [UInt8.le_iff_toNat_le, UInt8.reduceToNat]
  split
  · exact entry (by omega)
  · rename_i high
    rw [if_pos (by omega)]
    exact entry (by omega)

end PluginForge.Gb18030
