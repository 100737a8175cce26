/-
Reading the numbers of JSON. An integer of 64 bits, signed or not, is exact. Any other number is a
double, which is worked out from as many leading digits as fit into 64 bits and a power of ten: the
two are rounded first and their product or quotient is rounded again, so that the result may be off
by a unit in the last place.
-/
import PluginForge.Json.Draft
import PluginForge.Text.Double

namespace PluginForge.Json.Draft

open Chars

/-! ## Parts -/

/-- The digits after a decimal point; none where there is no point. -/
def fraction? : List Char → Option (List Char × List Char)
  | '.' :: s =>
    if (s.takeWhile Char.isDigit).isEmpty then none
    else some (s.takeWhile Char.isDigit, s.dropWhile Char.isDigit)
  | s => some ([], s)

/-- The value of the digits at the start of a text, of which there must be one. -/
def exponentDigits? (s : List Char) : Option (Nat × List Char) :=
  if (s.takeWhile Char.isDigit).isEmpty then none
  else some (ofDigits (s.takeWhile Char.isDigit), s.dropWhile Char.isDigit)

/-- The exponent of a number; absent where there is none. -/
def exponent? (s : List Char) : Option (Option Int × List Char) :=
  match s with
  | c :: r =>
    if c = 'e' ∨ c = 'E' then
      match r with
      | '-' :: r => (exponentDigits? r).map fun (n, r) => (some (-n), r)
      | '+' :: r => (exponentDigits? r).map fun (n, r) => (some n, r)
      | r => (exponentDigits? r).map fun (n, r) => (some n, r)
    else some (none, s)
  | [] => some (none, s)

/-! ## Doubles -/

/-- Appends digits to a number until one would take it beyond 64 bits; what is left begins with that
digit. -/
def append64 (n : Nat) : List Char → Nat × List Char
  | [] => (n, [])
  | c :: rest =>
    let next := 10 * n + digitValue c
    if next < UInt64.size then append64 next rest else (n, c :: rest)

/-- The largest power of ten that is a double. -/
def maxPower : Nat := 308

def powerOfTen (n : Nat) : Double :=
  .ofNat (Nat.pow 10 n)

/-- `x / 10 ^ n`, by `maxPower` powers at a time. -/
def lower (x : Double) (n : Nat) : Double :=
  if x.units = 0 then x
  else if n ≤ maxPower then x.div (powerOfTen n)
  else lower (x.div (powerOfTen maxPower)) (n - maxPower)
termination_by n
decreasing_by simp [maxPower] at *; omega

/-- The double that stands for `sig · 10 ^ exp`, unless it is out of bounds. -/
def double? (sig : Nat) (exp : Int) : Option Double :=
  if exp < 0 then some (lower (.ofNat sig) (-exp).toNat)
  else if sig = 0 then some ⟨0⟩
  else if exp > maxPower then none
  else
    let x := (Double.ofNat sig).mul (powerOfTen exp.toNat)
    if x.isFinite then some x else none

/-! ## Numbers -/

/-- The number of the digits before and after a point, and an exponent. Of the digits before the
point, those that do not fit only raise the power of ten. Those after it then get another try, and
are dropped from the first one on that does not fit. Out of bounds, a number cannot be used. -/
def ofDigitParts (negative : Bool) (whole frac : List Char) (exp : Int) : Draft :=
  let (n, surplus) := append64 0 whole
  let (sig, dropped) := append64 n frac
  match double? sig (surplus.length - (frac.length - dropped.length) + exp) with
  | some x => .double negative x
  | none => .unusable

/-- The number of some digits without a point and an exponent. -/
def ofWhole (negative : Bool) (whole : List Char) : Draft :=
  let n := ofDigits whole
  if negative then
    if 0 < n ∧ n ≤ Nat.pow 2 63 then .int (-n) else ofDigitParts true whole [] 0
  else if n < UInt64.size then .int n
  else ofDigitParts false whole [] 0

/-- Reads a number at the start of a text. -/
def number? (s : List Char) : Option (Draft × List Char) := do
  let (negative, r) := match s with
    | '-' :: r => (true, r)
    | _ => (false, s)
  let whole := r.takeWhile Char.isDigit
  if whole.isEmpty || (whole.head? = some '0' && 1 < whole.length) then none
  else
    let (frac, r) ← fraction? (r.dropWhile Char.isDigit)
    let (exp, r) ← exponent? r
    match frac, exp with
    | [], none => return (ofWhole negative whole, r)
    | _, _ => return (ofDigitParts negative whole frac (exp.getD 0), r)

end PluginForge.Json.Draft
