/-
Doubles that are not negative: rounding, products, quotients, and the shortest text that reads back.
A double is counted in units of the smallest one above zero, so that it is a natural number and the
laws of its arithmetic are laws about natural numbers.
-/
import PluginForge.Text.Number

namespace PluginForge

/-- A double that is not negative, in units of `2 ^ -1074`. -/
structure Double where
  units : Nat
deriving DecidableEq, Repr

namespace Double

/-- The number of units in one. -/
def one : Nat := Nat.pow 2 1074

/-- Whether a double lies below the bound of the finite ones, which is `2 ^ 1024`. -/
def isFinite (x : Double) : Bool :=
  x.units < Nat.pow 2 2098

/-! ## Rounding -/

/-- The integer nearest to `n / d`; of two that are equally near, the even one. -/
def nearest (n d : Nat) : Nat :=
  let rest := 2 * (n % d)
  if rest < d ∨ (rest = d ∧ n / d % 2 = 0) then n / d else n / d + 1

/-- The double nearest to `n / d`, of 53 bits at most. -/
def ofRatio (n d : Nat) : Double :=
  let step := Nat.pow 2 ((n * one / d).log2 - 52)
  ⟨nearest (n * one) (d * step) * step⟩

def ofNat (n : Nat) : Double :=
  ofRatio n 1

def mul (x y : Double) : Double :=
  ofRatio (x.units * y.units) (one * one)

def div (x y : Double) : Double :=
  ofRatio x.units y.units

/-! ## The shortest text -/

/-- `n · 10 ^ e` as a ratio. -/
def tens (n : Nat) (e : Int) : Nat × Nat :=
  if 0 ≤ e then (n * Nat.pow 10 e.toNat, 1) else (n, Nat.pow 10 (-e).toNat)

/-- The double nearest to `n · 10 ^ e`. -/
def ofTens (n : Nat) (e : Int) : Double :=
  ofRatio (tens n e).1 (tens n e).2

/-- A multiple of `10 ^ e` that reads back as `x`: the nearest one if that will do, else the one on
the other side of `x`. -/
def multiple? (x : Double) (e : Int) : Option Nat :=
  let (n, d) := tens x.units (-e)
  let d := d * one
  let near := nearest n d
  let far := if near = n / d then near + 1 else near - 1
  [near, far].find? fun m => ofTens m e = x

/-- The multiple of a power of ten, from `10 ^ e` downwards, that reads back as `x`. -/
def shortestFrom (x : Double) (e : Int) : (fuel : Nat) → Nat × Int
  | 0 => (0, e)
  | fuel + 1 =>
    match multiple? x e with
    | some n => (n, e)
    | none => shortestFrom x (e - 1) fuel

/-- The fewest digits that read back as `x`, as a number and a power of ten. No double needs a power
below `10 ^ -324`. -/
def shortest (x : Double) : Nat × Int :=
  let size := (Chars.digits (x.units / one)).length
  shortestFrom x size (size + 325)

/-- An exponent with its sign. -/
def exponent (n : Int) : List Char :=
  'e' :: (if n < 0 then '-' else '+') :: Chars.digits n.natAbs

/-- Digits times `10 ^ e` as a text. There is no exponent from `1e-5` up to, but not at, `1e16`. -/
def layout (digits : List Char) (e : Int) : List Char :=
  let point := digits.length + e
  if 0 ≤ e ∧ point ≤ 16 then digits ++ List.replicate e.toNat '0' ++ ['.', '0']
  else if 0 < point ∧ point ≤ 16 then
    digits.take point.toNat ++ '.' :: digits.drop point.toNat
  else if -5 < point ∧ point ≤ 0 then
    '0' :: '.' :: List.replicate (-point).toNat '0' ++ digits
  else
    let tail := if digits.length = 1 then [] else '.' :: digits.drop 1
    digits.take 1 ++ tail ++ exponent (point - 1)

/-- The shortest text that reads back as `x`. -/
def text (x : Double) : List Char :=
  if x.units = 0 then ['0', '.', '0']
  else
    let (n, e) := x.shortest
    layout (Chars.digits n) e

end Double
end PluginForge
