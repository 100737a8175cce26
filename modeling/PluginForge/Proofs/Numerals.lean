/-
Numerals: every character of a decimal one is a digit, only that of zero begins with a zero, and
reading a numeral gives the number that was written.
-/
import PluginForge.Text.Number

namespace PluginForge.Chars

/-! ## Digits -/

theorem isDigit_digitChar {n : Nat} (h : n < 10) : (digitChar n).isDigit = true := by
  have hd : ∀ m < 10, (digitChar m).isDigit = true := by decide
  exact hd n h

theorem digitValue_digitChar {n : Nat} (h : n < 10) : digitValue (digitChar n) = n := by
  have hd : ∀ m < 10, digitValue (digitChar m) = m := by decide
  exact hd n h

theorem hexValue?_digitChar {n : Nat} (h : n < 16) : hexValue? (digitChar n) = some n := by
  have hd : ∀ m < 16, hexValue? (digitChar m) = some m := by decide
  exact hd n h

/-! ## Decimal numerals -/

theorem isDigit_of_mem_digits {n : Nat} {c : Char} (h : c ∈ digits n) : c.isDigit = true := by
  induction n using digits.induct with
  | case1 n hn =>
    rw [digits, if_pos hn, List.mem_singleton] at h
    rw [h]
    exact isDigit_digitChar hn
  | case2 n hn ih =>
    rw [digits, if_neg hn, List.mem_append, List.mem_singleton] at h
    rcases h with h | rfl
    · exact ih h
    · exact isDigit_digitChar (Nat.mod_lt _ (by decide))

theorem digits_ne_nil (n : Nat) : digits n ≠ [] := by
  rw [digits]
  split <;> simp

theorem ofDigits_digits (n : Nat) : ofDigits (digits n) = n := by
  induction n using digits.induct with
  | case1 n hn =>
    rw [digits, if_pos hn]
    simp [ofDigits, digitValue_digitChar hn]
  | case2 n hn ih =>
    have hm : n % 10 < 10 := Nat.mod_lt _ (by decide)
    rw [ofDigits] at ih
    rw [digits, if_neg hn, ofDigits, List.foldl_append, ih]
    simp only [List.foldl_cons, List.foldl_nil, digitValue_digitChar hm]
    omega

theorem head?_digits_ne_zero {n : Nat} (h : 0 < n) : (digits n).head? ≠ some '0' := by
  induction n using digits.induct with
  | case1 n hn =>
    have hd : ∀ m < 10, 0 < m → digitChar m ≠ '0' := by decide
    rw [digits, if_pos hn]
    simpa using hd n hn h
  | case2 n hn ih =>
    have hh := ih (by omega)
    obtain ⟨c, r, hr⟩ := List.exists_cons_of_ne_nil (digits_ne_nil (n / 10))
    rw [hr] at hh
    rw [digits, if_neg hn, hr]
    exact hh

/-- A numeral of two or more digits does not begin with a zero. -/
theorem length_digits_of_head? {n : Nat} (h : (digits n).head? = some '0') :
    (digits n).length = 1 := by
  by_cases hn : 0 < n
  · exact absurd h (head?_digits_ne_zero hn)
  · obtain rfl : n = 0 := by omega
    rw [digits]
    rfl

end PluginForge.Chars
