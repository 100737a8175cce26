/-
JSON values and their written form. The members of an object keep their order, which is the order
in which they are written. A number is an integer or a double, and a double is written in the fewest
digits.
-/
import PluginForge.Text.Double

namespace PluginForge

/-- A JSON value. -/
inductive Json where
  | null
  | bool (b : Bool)
  | int (n : Int)
  | double (negative : Bool) (size : Double)
  | str (s : String)
  | arr (items : List Json)
  | obj (members : List (String × Json))
deriving Repr, Inhabited

namespace Json

def ofNat (n : Nat) : Json :=
  .int n

/-- A value or, in its absence, `null`. -/
def ofOption {α : Type} (f : α → Json) : Option α → Json
  | some a => f a
  | none => .null

def strings (items : List String) : Json :=
  .arr (items.map .str)

/-! ## Writing -/

/-- A character inside quotes: the quote, the backslash and the controls are escaped. -/
def escape (c : Char) : List Char :=
  if c = '"' then ['\\', '"']
  else if c = '\\' then ['\\', '\\']
  else if c = '\n' then ['\\', 'n']
  else if c = '\r' then ['\\', 'r']
  else if c = '\t' then ['\\', 't']
  else if c.toNat = 8 then ['\\', 'b']
  else if c.toNat = 12 then ['\\', 'f']
  else if c.toNat < 32 then '\\' :: 'u' :: '0' :: '0' :: Chars.hexPair c.toNat
  else [c]

def quote (s : String) : List Char :=
  '"' :: s.toList.flatMap escape ++ ['"']

def writeInt (n : Int) : List Char :=
  if n < 0 then '-' :: Chars.digits n.natAbs else Chars.digits n.natAbs

def writeDouble (negative : Bool) (size : Double) : List Char :=
  if negative then '-' :: size.text else size.text

mutual

/-- A value in one line without spaces. -/
def write : Json → List Char
  | .null => "null".toList
  | .bool b => (if b then "true" else "false").toList
  | .int n => writeInt n
  | .double negative size => writeDouble negative size
  | .str s => quote s
  | .arr items => '[' :: writeItems items ++ [']']
  | .obj members => '\x7b' :: writeMembers members ++ ['\x7d']

def writeItems : List Json → List Char
  | [] => []
  | [j] => write j
  | j :: rest => write j ++ ',' :: writeItems rest

def writeMembers : List (String × Json) → List Char
  | [] => []
  | [(k, j)] => quote k ++ ':' :: write j
  | (k, j) :: rest => quote k ++ ':' :: write j ++ ',' :: writeMembers rest

end

/-- The compact text of a value. -/
def render (j : Json) : String :=
  .ofList j.write

/-- A new line at a depth; each level is two spaces. -/
def indent (depth : Nat) : List Char :=
  '\n' :: List.replicate (2 * depth) ' '

mutual

/-- A value over several lines: each item and each member has a line of its own. -/
def writePretty (depth : Nat) : Json → List Char
  | .arr [] => ['[', ']']
  | .arr (j :: rest) => '[' :: prettyItems (depth + 1) (j :: rest) ++ indent depth ++ [']']
  | .obj [] => ['\x7b', '\x7d']
  | .obj (m :: rest) => '\x7b' :: prettyMembers (depth + 1) (m :: rest) ++ indent depth ++ ['\x7d']
  | .null => write .null
  | .bool b => write (.bool b)
  | .int n => write (.int n)
  | .double negative size => write (.double negative size)
  | .str s => write (.str s)

def prettyItems (depth : Nat) : List Json → List Char
  | [] => []
  | [j] => indent depth ++ writePretty depth j
  | j :: rest => indent depth ++ writePretty depth j ++ ',' :: prettyItems depth rest

def prettyMembers (depth : Nat) : List (String × Json) → List Char
  | [] => []
  | [(k, j)] => indent depth ++ quote k ++ ':' :: ' ' :: writePretty depth j
  | (k, j) :: rest =>
    indent depth ++ quote k ++ ':' :: ' ' :: writePretty depth j ++ ',' :: prettyMembers depth rest

end

/-- The text of a value over several lines. -/
def pretty (j : Json) : String :=
  .ofList (j.writePretty 0)

/-! ## Members in the order of their names -/

/-- Puts a member among sorted ones; one of the same name is replaced. -/
def insertMember (k : String) (j : Json) : List (String × Json) → List (String × Json)
  | [] => [(k, j)]
  | (k', j') :: rest =>
    if k = k' then (k, j) :: rest
    else if k < k' then (k, j) :: (k', j') :: rest
    else (k', j') :: insertMember k j rest

/-- An object whose members are sorted by name; of several of one name the last counts. -/
def sorted (members : List (String × Json)) : Json :=
  .obj (members.foldl (fun acc m => insertMember m.1 m.2 acc) [])

end Json
end PluginForge
