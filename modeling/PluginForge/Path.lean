/-
Paths of files and directories, as texts with `/` between their parts. A path keeps the text it
was written with; two paths are the same place when they have the same components, so doubled and
trailing separators and inner `.` steps make no difference.
-/
import PluginForge.Text

namespace PluginForge

/-- A path as it was written. -/
structure Path where
  text : String
deriving DecidableEq, Repr, Inhabited

namespace Path

/-- One step of a path. A `.` counts only at the start of a relative path. -/
inductive Component where
  | root
  | here
  | up
  | name (text : List Char)
deriving DecidableEq, Repr

/-- The stretches between separators, empty ones included. -/
def segments (s : List Char) : List (List Char) :=
  s.splitOn '/'

/-- The step a stretch between separators stands for; an empty one and a `.` stand for none. -/
def Component.ofSegment? (s : List Char) : Option Component :=
  if s = [] ∨ s = ['.'] then none
  else if s = ['.', '.'] then some .up
  else some (.name s)

def components (p : Path) : List Component :=
  match p.text.toList with
  | [] => []
  | '/' :: s => .root :: (segments s).filterMap Component.ofSegment?
  | s => match segments s with
    | ['.'] :: rest => .here :: rest.filterMap Component.ofSegment?
    | all => all.filterMap Component.ofSegment?

/-- Whether two paths name the same place. -/
def same (p q : Path) : Bool :=
  p.components = q.components

/-! ## Order -/

/-- The order of steps: the root first, then `.`, then `..`, then names by their characters. -/
def Component.compare : Component → Component → Ordering
  | .root, .root | .here, .here | .up, .up => .eq
  | .root, _ => .lt
  | _, .root => .gt
  | .here, _ => .lt
  | _, .here => .gt
  | .up, _ => .lt
  | _, .up => .gt
  | .name a, .name b => compareOfLessAndEq a b

/-- The order of step lists: the first difference decides, and a shorter list comes first. -/
def compareComponents : List Component → List Component → Ordering
  | [], [] => .eq
  | [], _ :: _ => .lt
  | _ :: _, [] => .gt
  | a :: as, b :: bs => (a.compare b).then (compareComponents as bs)

def compare (p q : Path) : Ordering :=
  compareComponents p.components q.components

/-! ## Parts -/

/-- The last step, when it is a name. -/
def fileNameChars? (p : Path) : Option (List Char) :=
  match p.components.getLast? with
  | some (.name s) => some s
  | _ => none

def fileName? (p : Path) : Option String :=
  p.fileNameChars?.map .ofList

/-- The parts of a file name before and after its last dot; a dot at the start of the name does
not count. -/
def splitExtension (name : List Char) : List Char × Option (List Char) :=
  match Chars.cutLast? '.' name with
  | some ([], _) => (name, none)
  | some (stem, ext) => (stem, some ext)
  | none => (name, none)

/-- The file name without its extension. -/
def stem? (p : Path) : Option String :=
  p.fileNameChars?.map fun name => .ofList (splitExtension name).1

def extension? (p : Path) : Option String :=
  p.fileNameChars?.bind fun name => (splitExtension name).2.map .ofList

/-- The path without its last step and the separators before it. -/
def parent (p : Path) : Path :=
  match Chars.cutLast? '/' p.text.toList with
  | some (before, _) =>
    let dir := Chars.trimEndOf (· == '/') before
    if dir.isEmpty then ⟨"/"⟩ else ⟨.ofList dir⟩
  | none => ⟨""⟩

/-- The path `q` seen from `p`: an absolute `q` stands for itself. -/
def join (p : Path) (q : String) : Path :=
  if q.toList.head? = some '/' then ⟨q⟩
  else if p.text = "" ∨ p.text.toList.getLast? = some '/' then ⟨p.text ++ q⟩
  else ⟨p.text ++ "/" ++ q⟩

/-- Whether the extension of a path is `wanted`, in any ASCII case and with or without its dot.
The empty extension is that of every path. -/
def hasExtension (p : Path) (wanted : String) : Bool :=
  wanted = "" || match p.extension? with
    | some e => Text.lowerAscii e = .ofList (Chars.lowerAscii (wanted.toList.dropWhile (· == '.')))
    | none => false

end Path
end PluginForge
