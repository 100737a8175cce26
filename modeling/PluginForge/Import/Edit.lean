/-
Changes to the import directives of a source text: removing configured imports, putting missing
default imports in front, and removing the directives that a failed compile points at. None of them
moves a line or touches a line that is not a directive.
-/
import PluginForge.Import.Directive

namespace PluginForge.Import

open Chars

/-- The directives of a text, in order and without the blanks around them. -/
def declared (text : String) : List String :=
  ((lines text.toList).filter fun line => (Directive.parse? line).isSome).map
    fun line => .ofList (trim line)

/-! ## Removing configured imports -/

/-- What follows `form` at the start of a line: padding may surround it, and a carriage return may
follow. -/
def afterForm? (form s : List Char) : Option (List Char) := do
  let r ← after? form (s.dropWhile isPadding)
  match r.dropWhile isPadding with
  | '\r' :: r => some r
  | r => some r

/-- What follows a line that is `form` and ends in a line feed. -/
def afterLine? (form s : List Char) : Option (List Char) :=
  match afterForm? form s with
  | some ('\n' :: r) => some r
  | _ => none

/-- What follows a line that is `form`, from its line feed on. -/
def afterLastLine? (form s : List Char) : Option (List Char) :=
  match afterForm? form s with
  | some [] => some []
  | some ('\n' :: r) => some ('\n' :: r)
  | _ => none

/-- Goes through a text with whether a line starts here and, reversed, the text kept so far. Where a
stretch is deleted, `rest?` gives what follows it. The fuel is at least the length of the text. -/
def deleteFrom (rest? : List Char → Option (List Char)) :
    (fuel : Nat) → Bool → List Char → List Char → List Char
  | 0, _, kept, s => kept.reverse ++ s
  | _ + 1, _, kept, [] => kept.reverse
  | fuel + 1, atStart, kept, c :: s =>
    match if atStart then rest? (c :: s) else none with
    | some r => deleteFrom rest? fuel true kept r
    | none => deleteFrom rest? fuel (c == '\n') (c :: kept) s

/-- Deletes the stretches that start where a line starts and end where `rest?` says. -/
def deleteAtLineStarts (rest? : List Char → Option (List Char)) (s : List Char) : List Char :=
  deleteFrom rest? s.length true [] s

/-- Deletes every line that is `form`; of a last line without a line feed the text goes. -/
def deleteForm (form s : List Char) : List Char :=
  deleteAtLineStarts (afterLastLine? form) (deleteAtLineStarts (afterLine? form) s)

/-- The two spellings of a configured import: as it is written and as a statement. -/
def forms (token : String) : List String :=
  if statement token = token then [token] else [token, statement token]

/-- The configured imports that say something, without the blanks around them. -/
def tokens (removed : List String) : List String :=
  (removed.map Text.trim).filter (· ≠ "")

/-- Removes every line that is one of the configured imports, with or without `using`. -/
def strip (text : String) (removed : List String) : String :=
  .ofList (((tokens removed).flatMap forms).foldl (fun s form => deleteForm form.toList s)
    text.toList)

/-! ## Adding default imports -/

/-- The name under which imports are compared. -/
def key (text : String) : String :=
  Text.lowerAscii (target text)

/-- The statements of those defaults whose target is not yet among `present`; each counts as present
for the ones after it. -/
def missingDefaults : (present : List String) → (defaults : List String) → List String
  | _, [] => []
  | present, d :: defaults =>
    if Text.isBlank d then missingDefaults present defaults
    else
      let s := statement d
      if key s ∈ present then missingDefaults present defaults
      else s :: missingDefaults (key s :: present) defaults

/-- The line end that lines put into a text get. -/
def newline (text : String) : String :=
  if Text.occurs "\r\n" text then "\r\n" else "\n"

/-- Puts the defaults that `existing` lacks in front of a text, one to a line. -/
def addDefaults (text : String) (existing defaults : List String) : String :=
  String.join ((missingDefaults (existing.map key) defaults).map (· ++ newline text)) ++ text

/-! ## Removing selected imports -/

/-- Whether a line of a text, with its end, is a directive whose target is selected. -/
def selects (remove : String → Bool) (line : List Char) : Bool :=
  match Directive.parse? (trimEndOf (fun c => c == '\r' || c == '\n') line) with
  | some d => remove (.ofList d.target)
  | none => false

/-- Removes the directives whose target is selected; returns the text and their number. -/
def removeWhere (text : String) (remove : String → Bool) : String × Nat :=
  let lines := rawLines text.toList
  (.ofList (lines.filter (! selects remove ·)).flatten, lines.countP (selects remove))

end PluginForge.Import
