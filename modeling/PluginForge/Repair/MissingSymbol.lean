/-
Errors that say a type or a namespace could not be found, and the imports they point at. Only such
errors make it worth while to compile again, after the imports are removed.
-/
import PluginForge.Compiler.Request
import PluginForge.Import.Edit

namespace PluginForge.MissingSymbol

open Chars

/-- The codes of the errors: not found, not in its namespace, not in the global namespace. -/
def codes : List String :=
  ["CS0246", "CS0234", "CS0400"]

/-! ## Messages -/

/-- A text between quotes, not empty, and what follows the closing quote. -/
def quoted? (s : List Char) : Option (List Char × List Char) :=
  match s with
  | '\'' :: r =>
    match cut? '\'' r with
    | some ([], _) => none
    | found => found
  | _ => none

/-- Reads `name` at the start of a message that goes on with `tail`. -/
def subject? (tail : String) (s : List Char) : Option (List Char × List Char) := do
  let r ← after? "The type or namespace name ".toList s
  let (name, r) ← quoted? r
  let r ← after? tail.toList r
  return (name, r)

/-- The first place of a text at which `f` finds something. -/
def search? {α : Type} (f : List Char → Option α) : List Char → Option α
  | [] => f []
  | c :: s => (f (c :: s)).or (search? f s)

/-- The name that could not be found. -/
def notFound? (message : List Char) : Option (List Char) :=
  search? (fun s => (subject? " could not be found" s).map (·.1)) message

/-- The name that could not be found in the global namespace. -/
def notFoundGlobally? (message : List Char) : Option (List Char) :=
  search? (fun s => (subject? " could not be found in the global namespace" s).map (·.1)) message

/-- The name that does not exist in a namespace, and the namespace. -/
def notInNamespace? (message : List Char) : Option (List Char × List Char) :=
  search? (fun s => do
    let (name, r) ← subject? " does not exist in the namespace " s
    let (space, _) ← quoted? r
    return (name, space)) message

/-- Whether a diagnostic is an error about a missing symbol: its code says so or, where it has none,
its message. -/
def reports (d : Diagnostic) : Bool :=
  d.isError && match d.code with
    | some code => code ∈ codes
    | none => (notFound? d.message.toList).isSome || (notInNamespace? d.message.toList).isSome

/-! ## Offending names -/

/-- A name without its type arguments and, if it has dots, also the part before its last one. -/
def withParent (name : List Char) : List (List Char) :=
  let name := name.takeWhile (· ≠ '<')
  match cutLast? '.' name with
  | some (parent, _) => [name, parent]
  | none => [name]

/-- The names that an error message points at. A namespace in which a name was looked for is itself
known, so then the full name is the only one. -/
def namesIn (message : List Char) : List (List Char) :=
  match notInNamespace? message with
  | some (name, space) => [space ++ '.' :: name]
  | none =>
    match (notFoundGlobally? message).or (notFound? message) with
    | some name => withParent name
    | none => []

/-- Adds a name at the end, unless it is empty or there already. -/
def addName (names : List String) (name : String) : List String :=
  if name = "" || name ∈ names then names else names ++ [name]

/-- The names that the errors about missing symbols point at, in order and each once. -/
def offendingNames (ds : List Diagnostic) : List String :=
  ((ds.filter reports).flatMap fun d => (namesIn d.message.toList).map .ofList).foldl addName []

/-! ## Removing imports -/

/-- Whether an import is the offending name or lies below it, in any ASCII case. What lies above an
offending name was found, so it is not related. -/
def related (target offending : String) : Bool :=
  let target := lowerAscii target.toList
  let offending := lowerAscii offending.toList
  target = offending || (offending ++ ['.']).isPrefixOf target

/-- Removes from a source the imports that are related to an offending name. -/
def pruneText (offending : List String) (text : String) : String × Nat :=
  Import.removeWhere text fun target => offending.any (related target)

/-- Removes the related imports from every source; returns the sources and the number of imports
removed. -/
def prune (sources : List SourceFile) (offending : List String) : List SourceFile × Nat :=
  (sources.map fun s => { s with text := (pruneText offending s.text).1 },
    (sources.map fun s => (pruneText offending s.text).2).foldr (· + ·) 0)

end PluginForge.MissingSymbol
