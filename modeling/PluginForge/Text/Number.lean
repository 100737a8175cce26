/-
Natural numbers in decimal and in hexadecimal, as texts. `ofDigits` reads what `digits` writes.
-/
import PluginForge.Text.Chars

namespace PluginForge.Chars

/-- The digit character of a number below sixteen; letters are small. -/
def digitChar (d : Nat) : Char :=
  if d < 10 then .ofNat (48 + d) else .ofNat (87 + d)

/-- The decimal digits of a number, without leading zeros. -/
def digits (n : Nat) : List Char :=
  if n < 10 then [digitChar n] else digits (n / 10) ++ [digitChar (n % 10)]
termination_by n
decreasing_by omega

/-- The value of a decimal digit. -/
def digitValue (c : Char) : Nat :=
  c.toNat - 48

/-- The number that decimal digits stand for. -/
def ofDigits (s : List Char) : Nat :=
  s.foldl (fun n c => 10 * n + digitValue c) 0

/-- The value of a hexadecimal digit in either case. -/
def hexValue? (c : Char) : Option Nat :=
  if c.isDigit then some (c.toNat - 48)
  else if 'a' ≤ c ∧ c ≤ 'f' then some (c.toNat - 87)
  else if 'A' ≤ c ∧ c ≤ 'F' then some (c.toNat - 55)
  else none

/-- Two hexadecimal digits. -/
def hexPair (n : Nat) : List Char :=
  [digitChar (n / 16 % 16), digitChar (n % 16)]

/-- The decimal digits of a number, at least `width` of them. -/
def padded (width n : Nat) : List Char :=
  List.replicate (width - (digits n).length) '0' ++ digits n

end PluginForge.Chars
