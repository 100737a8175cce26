/-
Import directives. `Directive.parse?` reads one line, which holds a directive and nothing else;
`statement` writes an import in its canonical form, and `target` finds what a statement imports
without asking whether it is well formed.
-/
import PluginForge.Text

namespace PluginForge.Import

open Chars

/-- An import directive that stands alone on its line. The target is kept as written, with its
type arguments. -/
structure Directive where
  isGlobal : Bool
  isStatic : Bool
  alias? : Option (List Char)
  target : List Char
deriving DecidableEq, Repr

namespace Directive

def startsName (s : List Char) : Bool :=
  s.head?.any isNameStart

/-- The identifier in front of an equals sign, and what follows the sign. -/
def splitAlias? (s : List Char) : Option (List Char × List Char) :=
  if startsName s then
    match trimStart (s.dropWhile isWordChar) with
    | '=' :: r => some (s.takeWhile isWordChar, trimStart r)
    | _ => none
  else none

/-- A dotted name, which type arguments in angle brackets may follow at once. -/
def isTarget (s : List Char) : Bool :=
  startsName s && match s.dropWhile fun c => isWordChar c || c == '.' with
    | [] => true
    | '<' :: r => r.getLast? = some '>'
    | _ => false

/-- The text between `using` and the semicolon: the modifier, the alias and the target. A target or
an alias may itself be called `static`. -/
def ofBody? (isGlobal : Bool) (body : List Char) : Option Directive :=
  let (isStatic, body) :=
    match afterWord? "static".toList body with
    | some r => if startsName r then (true, r) else (false, body)
    | none => (false, body)
  let (name?, body) :=
    match splitAlias? body with
    | some (name, r) => (some name, r)
    | none => (none, body)
  if isTarget body then some ⟨isGlobal, isStatic, name?, body⟩ else none

/-- Reads a line that is one directive, between blanks. -/
def parse? (line : List Char) : Option Directive := do
  let line := trimStart line
  let (isGlobal, line) :=
    match afterWord? "global".toList line with
    | some r => (true, r)
    | none => (false, line)
  let line ← afterWord? "using".toList line
  let (body, tail) ← cut? ';' line
  if tail.all isBlank then ofBody? isGlobal (trimEnd body) else none

end Directive

/-! ## Statements -/

/-- The canonical statement: `X` becomes `using X;`, and a full statement stays as it is. -/
def statement (text : String) : String :=
  let s := trim text.toList
  if "using ".toList.isPrefixOf s && s.getLast? = some ';' then .ofList s
  else "using " ++ .ofList (trim (trimEndOf (· == ';') s)) ++ ";"

/-- The text without one leading word `w`, which ends in a space, and the blanks after it. -/
def dropWord (w : String) (s : List Char) : List Char :=
  match after? w.toList s with
  | some r => trimStart r
  | none => s

/-- What a statement imports, as written: the words `global`, `using` and `static` are dropped in
that order, and of an alias only the right side counts. -/
def target (text : String) : String :=
  let s := trim (trimEndOf (· == ';') (trim text.toList))
  let s := dropWord "static " (dropWord "using " (dropWord "global " s))
  match cut? '=' s with
  | some (_, right) => .ofList (trim right)
  | none => .ofList s

end PluginForge.Import
