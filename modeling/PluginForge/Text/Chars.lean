/-
Texts as lists of characters: character classes, trimming, cutting into lines, searching and
replacing.

A blank is a character of the Unicode property White_Space, and a word character one that
identifiers of any script are made of. Case is compared in ASCII only.
-/
import PluginForge.Text.Unicode

namespace PluginForge.Chars

/-! ## Character classes -/

/-- White space of every script, line ends included. -/
def isBlank (c : Char) : Bool :=
  let n := c.toNat
  (9 ≤ n && n ≤ 13) || n == 0x20 || n == 0x85 || n == 0xA0 || n == 0x1680 ||
    (0x2000 ≤ n && n ≤ 0x200A) || n == 0x2028 || n == 0x2029 || n == 0x202F || n == 0x205F ||
    n == 0x3000

/-- The C0 and C1 controls and the delete character. -/
def isControl (c : Char) : Bool :=
  c.toNat < 0x20 || (0x7F ≤ c.toNat && c.toNat < 0xA0)

/-- A decimal digit of any script. -/
def isDigit (c : Char) : Bool :=
  if c.toNat < 0x80 then c.isDigit else Text.Unicode.covers Text.Unicode.digits c.toNat

/-- A character that continues a word. -/
def isWordChar (c : Char) : Bool :=
  if c.toNat < 0x80 then c.isAlphanum || c == '_' else Text.Unicode.covers Text.Unicode.word c.toNat

/-- A character that starts an identifier: an ASCII letter or an underscore. -/
def isNameStart (c : Char) : Bool :=
  c.isAlpha || c == '_'

/-- A space or a tab, which may surround a statement on its line. -/
def isPadding (c : Char) : Bool :=
  c == ' ' || c == '\t'

/-! ## Trimming and cutting -/

/-- The list without the characters of `p` at its end. -/
def trimEndOf (p : Char → Bool) (s : List Char) : List Char :=
  (s.reverse.dropWhile p).reverse

def trimStart (s : List Char) : List Char :=
  s.dropWhile isBlank

def trimEnd (s : List Char) : List Char :=
  trimEndOf isBlank s

def trim (s : List Char) : List Char :=
  trimEnd (trimStart s)

/-- What follows `p` in `s`, when `s` starts with `p`. -/
def after? : (p s : List Char) → Option (List Char)
  | [], s => some s
  | _ :: _, [] => none
  | a :: p, b :: s => if a = b then after? p s else none

/-- What follows the word `w` and the blanks after it, of which there must be one. -/
def afterWord? (w s : List Char) : Option (List Char) :=
  match after? w s with
  | some (c :: r) => if isBlank c then some (trimStart r) else none
  | _ => none

/-- What follows `c`, which blanks may precede. -/
def afterMark? (c : Char) (s : List Char) : Option (List Char) :=
  match trimStart s with
  | d :: r => if d = c then some r else none
  | [] => none

/-- The parts before and after the first `c`. -/
def cut? (c : Char) (s : List Char) : Option (List Char × List Char) :=
  match s.span (· ≠ c) with
  | (before, _ :: rest) => some (before, rest)
  | (_, []) => none

/-- The parts before and after the last `c`. -/
def cutLast? (c : Char) (s : List Char) : Option (List Char × List Char) :=
  (cut? c s.reverse).map fun (rest, before) => (before.reverse, rest.reverse)

/-- Whether `p` occurs in `s`. -/
def occurs (p : List Char) : List Char → Bool
  | [] => p.isEmpty
  | c :: s => p.isPrefixOf (c :: s) || occurs p s

/-- The text with its ASCII capitals made small. -/
def lowerAscii (s : List Char) : List Char :=
  s.map Char.toLower

/-! ## Lines -/

/-- Puts one character in front of a text that is cut into lines. -/
def consLine (c : Char) (lines : List (List Char)) : List (List Char) :=
  if c = '\n' then [c] :: lines
  else match lines with
    | [] => [[c]]
    | line :: rest => (c :: line) :: rest

/-- The lines of a text, each with the line feed that ends it. -/
def rawLines (s : List Char) : List (List Char) :=
  s.foldr consLine []

/-- A line without its end, which is a line feed or a carriage return and a line feed. -/
def lineContent (line : List Char) : List Char :=
  match line.reverse with
  | '\n' :: '\r' :: r => r.reverse
  | '\n' :: r => r.reverse
  | _ => line

/-- The lines of a text without their ends. -/
def lines (s : List Char) : List (List Char) :=
  (rawLines s).map lineContent

/-! ## Replacing -/

/-- Goes through a text from left to right, with the number of characters still to be passed over
and, reversed, the text written so far. -/
def replaceByFrom (rule : List Char → Option (Nat × List Char)) :
    Nat → List Char → List Char → List Char
  | _, done, [] => done.reverse
  | k + 1, done, _ :: s => replaceByFrom rule k done s
  | 0, done, c :: s =>
    match rule (c :: s) with
    | some (n, new) => replaceByFrom rule (n - 1) (new.reverse ++ done) s
    | none => replaceByFrom rule 0 (c :: done) s

/-- Replaces, from left to right and without overlaps, every stretch that `rule` recognises where
it starts; the rule gives the stretch's length and what stands in its place. -/
def replaceBy (rule : List Char → Option (Nat × List Char)) (s : List Char) : List Char :=
  replaceByFrom rule 0 [] s

/-- Replaces every occurrence of `old`. -/
def replace (old new : List Char) (s : List Char) : List Char :=
  if old.isEmpty then s
  else replaceBy (fun t => if old.isPrefixOf t then some (old.length, new) else none) s

/-! ## Small laws -/

@[simp] theorem rawLines_nil : rawLines [] = [] := rfl

@[simp] theorem rawLines_cons (c : Char) (s : List Char) :
    rawLines (c :: s) = consLine c (rawLines s) := rfl

theorem flatten_consLine (c : Char) (lines : List (List Char)) :
    (consLine c lines).flatten = c :: lines.flatten := by
  unfold consLine
  split
  · simp
  · split <;> simp

/-- Cutting into lines loses nothing. -/
theorem flatten_rawLines (s : List Char) : (rawLines s).flatten = s := by
  induction s with
  | nil => rfl
  | cons c s ih => rw [rawLines_cons, flatten_consLine, ih]

theorem after?_eq_some_iff {p s r : List Char} : after? p s = some r ↔ s = p ++ r := by
  induction p generalizing s with
  | nil => simp [after?, eq_comm]
  | cons a p ih =>
    cases s with
    | nil => simp [after?]
    | cons b s =>
      by_cases h : a = b
      · subst h; simp [after?, ih]
      · simp [after?, h]; exact fun e => absurd e.symm h

end PluginForge.Chars
