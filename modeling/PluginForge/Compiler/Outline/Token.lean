/-
The tokens that an outline is built from: import directives, heads of namespaces and types, the
property `Name` where its value is a literal, and braces. Everything else in a source is passed over,
so a brace inside a text or a comment counts as a brace.

A token is looked for at every character from left to right, and after a token behind its end.
-/
import PluginForge.Text.Chars

namespace PluginForge.Outline

open Chars

inductive Token where
  | directive (text target : List Char) (isGlobal : Bool) (alias? : Option (List Char))
  | scope (name : List Char) (fileScoped : Bool)
  | typeHead (modifiers : List (List Char)) (kind name : List Char) (bases : List (List Char))
  | nameBody (literal : List Char)
  | nameGetter (literal : List Char)
  | openBrace
  | closeBrace
deriving DecidableEq, Repr

/-! ## Pieces of tokens -/

/-- The characters of a dotted name. -/
def isNameChar (c : Char) : Bool :=
  isWordChar c || c == '.'

/-- The longest stretch of characters of `p`, which must not be empty, and the rest. -/
def stretch? (p : Char → Bool) (s : List Char) : Option (List Char × List Char) :=
  if (s.takeWhile p).isEmpty then none else some (s.takeWhile p, s.dropWhile p)

/-- A text between double quotes and what follows it. -/
def literal? (s : List Char) : Option (List Char × List Char) :=
  (after? ['"'] s).bind (cut? '"')

/-! ## Import directives -/

/-- The alias and the target of an import directive, and what follows its semicolon. -/
def importTail? (s : List Char) : Option (Option (List Char) × List Char × List Char) := do
  let (name?, s) :=
    match stretch? isWordChar s with
    | some (word, r) =>
      match afterMark? '=' r with
      | some r => (some word, trimStart r)
      | none => (none, s)
    | none => (none, s)
  let (target, r) ← stretch? isNameChar s
  let r ← afterMark? ';' r
  return (name?, target, r)

/-- An import directive at the start of a line, which ends at the first semicolon. It may go on over
several lines, and something may follow it. -/
def directive? (s : List Char) : Option (Token × List Char) := do
  let r := s.dropWhile isPadding
  let (isGlobal, r) :=
    match afterWord? "global".toList r with
    | some r => (true, r)
    | none => (false, r)
  let r ← afterWord? "using".toList r
  let (name?, target, rest) ←
    ((afterWord? "static".toList r).bind importTail?).or (importTail? r)
  return (.directive (trim (s.takeWhile (· ≠ ';') ++ [';'])) target isGlobal name?, rest)

/-! ## Namespaces and types -/

/-- The head of a namespace, up to its brace or, where it is for the whole file, its semicolon. -/
def scope? (s : List Char) : Option (Token × List Char) := do
  let r ← afterWord? "namespace".toList s
  let (name, r) ← stretch? isNameChar r
  match trimStart r with
  | '\x7b' :: r => some (.scope name false, r)
  | ';' :: r => some (.scope name true, r)
  | _ => none

/-- The modifiers of types. -/
def modifierWords : List (List Char) :=
  ["public", "internal", "private", "protected", "static", "sealed", "abstract", "partial",
    "unsafe"].map String.toList

def kindWords : List (List Char) :=
  ["class", "struct", "interface", "record", "enum"].map String.toList

/-- One of some words, with blanks after it, at the start of a text. -/
def oneOf? (words : List (List Char)) (s : List Char) : Option (List Char × List Char) :=
  words.findSome? fun w => (afterWord? w s).map (w, ·)

/-- The modifiers at the start of a text, `fuel` of them at most, and what follows them. -/
def modifiersWithin (fuel : Nat) (s : List Char) : List (List Char) × List Char :=
  match fuel with
  | 0 => ([], s)
  | fuel + 1 =>
    match oneOf? modifierWords s with
    | some (w, r) =>
      let (ws, r) := modifiersWithin fuel r
      (w :: ws, r)
    | none => ([], s)

/-- The modifiers at the start of a text, and what follows them. -/
def modifiers (s : List Char) : List (List Char) × List Char :=
  match oneOf? modifierWords s with
  | some (w, r) =>
    let (ws, r) := modifiersWithin r.length r
    (w :: ws, r)
  | none => ([], s)

/-- What follows the type parameters in angle brackets, where there are any. -/
def afterTypeParameters? (s : List Char) : Option (List Char) :=
  match s with
  | '<' :: r => (cut? '>' r).map (·.2)
  | _ => some s

/-- The entries of a base list, which is the text between the colon and the brace. A list of blanks
has one empty entry; there must be something. -/
def baseEntries? (list : List Char) : Option (List (List Char)) :=
  if list.isEmpty then none else some (((trim list).splitOn ',').map trim)

/-- The head of a type, up to its brace. Where no modifier stands in front, the word before must have
ended. -/
def typeHead? (inWord : Bool) (s : List Char) : Option (Token × List Char) := do
  let (mods, r) := modifiers s
  if mods.isEmpty && inWord then none
  else
    let (kind, r) ← oneOf? kindWords r
    let (name, r) ← stretch? isWordChar r
    let r ← afterTypeParameters? r
    match trimStart r with
    | '\x7b' :: r => some (.typeHead mods kind name [], r)
    | ':' :: r =>
      let (list, r) ← cut? '\x7b' r
      let bases ← baseEntries? list
      some (.typeHead mods kind name bases, r)
    | _ => none

/-! ## The property `Name` -/

/-- `Name => "…";` -/
def nameBody? (s : List Char) : Option (Token × List Char) := do
  let r ← after? "Name".toList s
  let r ← after? "=>".toList (trimStart r)
  let (text, r) ← literal? (trimStart r)
  let r ← afterMark? ';' r
  return (.nameBody text, r)

/-- `Name { get { return "…";` -/
def nameGetter? (s : List Char) : Option (Token × List Char) := do
  let r ← after? "Name".toList s
  let r ← afterMark? '\x7b' r
  let r ← after? "get".toList (trimStart r)
  let r ← afterMark? '\x7b' r
  let r ← afterWord? "return".toList (trimStart r)
  let (text, r) ← literal? r
  let r ← afterMark? ';' r
  return (.nameGetter text, r)

/-! ## Scanning -/

/-- The token at the start of a text, and what follows it; `before` is the character in front. -/
def token? (before : Option Char) (s : List Char) : Option (Token × List Char) :=
  let inWord := before.any isWordChar
  let atLineStart := before.all (· == '\n')
  ((if atLineStart then directive? s else none).or
  ((if inWord then none else scope? s).or
  ((typeHead? inWord s).or
  ((if inWord then none else nameBody? s).or
  ((if inWord then none else nameGetter? s).or
  (match s with
    | '\x7b' :: r => some (.openBrace, r)
    | '\x7d' :: r => some (.closeBrace, r)
    | _ => none))))))

/-- Goes through a text with the character in front and the tokens found so far, reversed. A token
ends in a mark, so behind it no line starts and no word goes on. The fuel is at least the length of
the text. -/
def scanFrom : (fuel : Nat) → Option Char → List Token → List Char → List Token
  | 0, _, found, _ => found.reverse
  | _ + 1, _, found, [] => found.reverse
  | fuel + 1, before, found, c :: s =>
    match token? before (c :: s) with
    | some (t, r) => scanFrom fuel (some ';') (t :: found) r
    | none => scanFrom fuel (some c) found s

/-- The tokens of a source text. -/
def scan (s : List Char) : List Token :=
  scanFrom s.length none [] s

end PluginForge.Outline
