/-
Reading JSON texts. `Json.Draft.read?` accepts the grammar of the format, with blanks around every
token, and leaves to its caller what it makes of the parts that cannot be used.
-/
import PluginForge.Json.Number

namespace PluginForge.Json.Draft

open Chars

/-- The deepest nesting of arrays and objects whose content can be used. -/
def maxDepth : Nat := 127

def skipSpace (s : List Char) : List Char :=
  s.dropWhile fun c => c == ' ' || c == '\n' || c == '\t' || c == '\r'

/-! ## Texts -/

/-- A part of a quoted text: a character, or a UTF-16 unit that was written as a number. -/
inductive Piece where
  | char (c : Char)
  | unit (n : Nat)

/-- The character that a backslash and `c` stand for. -/
def unescape? (c : Char) : Option Char :=
  match c with
  | '"' => some '"'
  | '\\' => some '\\'
  | '/' => some '/'
  | 'b' => some '\x08'
  | 'f' => some '\x0c'
  | 'n' => some '\n'
  | 'r' => some '\r'
  | 't' => some '\t'
  | _ => none

/-- The parts of a text up to its closing quote, with those read so far reversed in front, and what
follows the quote. -/
def pieces? (done : List Piece) : List Char → Option (List Piece × List Char)
  | [] => none
  | '"' :: s => some (done.reverse, s)
  | '\\' :: 'u' :: a :: b :: c :: d :: s =>
    match hexValue? a, hexValue? b, hexValue? c, hexValue? d with
    | some a, some b, some c, some d =>
      pieces? (.unit (4096 * a + 256 * b + 16 * c + d) :: done) s
    | _, _, _, _ => none
  | '\\' :: c :: s =>
    match unescape? c with
    | some c => pieces? (.char c :: done) s
    | none => none
  | c :: s => if c = '\\' ∨ c.toNat < 32 then none else pieces? (.char c :: done) s

/-- The text made of some parts, unless a surrogate lacks its other half. -/
def assemble? (done : List Char) : List Piece → Option (List Char)
  | [] => some done.reverse
  | .char c :: rest => assemble? (c :: done) rest
  | .unit n :: rest =>
    if 0xD800 ≤ n ∧ n < 0xDC00 then
      match rest with
      | .unit m :: rest =>
        if 0xDC00 ≤ m ∧ m < 0xE000 then
          assemble? (.ofNat (0x10000 + 1024 * (n - 0xD800) + (m - 0xDC00)) :: done) rest
        else none
      | _ => none
    else if 0xDC00 ≤ n ∧ n < 0xE000 then none
    else assemble? (.ofNat n :: done) rest

/-- Reads a text after its opening quote. The text itself is absent where it cannot be used. -/
def quoted? (s : List Char) : Option (Option String × List Char) :=
  (pieces? [] s).map fun (ps, rest) => ((assemble? [] ps).map .ofList, rest)

/-! ## Values -/

/-- An array or object at a depth: one that lies too deep cannot be used. -/
def atDepth (depth : Nat) (d : Draft) : Draft :=
  if depth < maxDepth then d else .unusable

mutual

/-- Reads one value that lies inside `depth` arrays and objects. -/
def value? (fuel depth : Nat) (s : List Char) : Option (Draft × List Char) :=
  match fuel with
  | 0 => none
  | fuel + 1 =>
    match skipSpace s with
    | 'n' :: 'u' :: 'l' :: 'l' :: r => some (.null, r)
    | 't' :: 'r' :: 'u' :: 'e' :: r => some (.bool true, r)
    | 'f' :: 'a' :: 'l' :: 's' :: 'e' :: r => some (.bool false, r)
    | '"' :: r => (quoted? r).map fun (t, r) => ((t.map Draft.str).getD .unusable, r)
    | '[' :: r =>
      match skipSpace r with
      | ']' :: r => some (atDepth depth (.arr []), r)
      | r => (items? fuel (depth + 1) r).map fun (ds, r) => (atDepth depth (.arr ds), r)
    | '\x7b' :: r =>
      match skipSpace r with
      | '\x7d' :: r => some (atDepth depth (.obj []), r)
      | r => (members? fuel (depth + 1) r).map fun (ms, r) => (atDepth depth (.obj ms), r)
    | r => number? r

/-- Reads the items of an array, one at least, and its closing bracket. -/
def items? (fuel depth : Nat) (s : List Char) : Option (List Draft × List Char) :=
  match fuel with
  | 0 => none
  | fuel + 1 =>
    match value? fuel depth s with
    | some (d, r) =>
      match skipSpace r with
      | ']' :: r => some ([d], r)
      | ',' :: r => (items? fuel depth r).map fun (ds, r) => (d :: ds, r)
      | _ => none
    | none => none

/-- Reads the members of an object, one at least, and its closing brace. -/
def members? (fuel depth : Nat) (s : List Char) :
    Option (List (Option String × Draft) × List Char) :=
  match fuel with
  | 0 => none
  | fuel + 1 =>
    match skipSpace s with
    | '"' :: r =>
      match quoted? r with
      | some (k, r) =>
        match skipSpace r with
        | ':' :: r =>
          match value? fuel depth r with
          | some (d, r) =>
            match skipSpace r with
            | '\x7d' :: r => some ([(k, d)], r)
            | ',' :: r => (members? fuel depth r).map fun (ms, r) => ((k, d) :: ms, r)
            | _ => none
          | none => none
        | _ => none
      | none => none
    | _ => none

end

/-- Reads a text that is one JSON value and blanks around it. -/
def read? (text : String) : Option Draft :=
  let s := text.toList
  match value? (2 * s.length + 2) 0 s with
  | some (d, r) => if (skipSpace r).isEmpty then some d else none
  | none => none

end PluginForge.Json.Draft

namespace PluginForge.Json

/-- Reads a JSON text all of which can be used. -/
def read? (text : String) : Option Json :=
  (Draft.read? text).bind Draft.toJson?

end PluginForge.Json
