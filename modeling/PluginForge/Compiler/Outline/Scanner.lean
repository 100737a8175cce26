/-
Building an outline from tokens. Open namespaces, types and other blocks form a stack; a closing
brace closes the innermost of them that has a brace, and what is declared goes into the innermost of
them that can hold it. A namespace for the whole file has no brace and ends where what is around it
ends.
-/
import PluginForge.Compiler.Outline
import PluginForge.Compiler.Outline.Token

namespace PluginForge.Outline

/-- Something open, with the members declared in it so far, the last one first. -/
inductive Frame where
  | scope (name : String) (fileScoped : Bool) (members : List OutlineNode)
  | typeDecl (kind name : String) (modifiers bases : List String) (members : List OutlineNode)
  | block
deriving Repr

/-- Whether a brace closes what is open. -/
def Frame.braced : Frame → Bool
  | .scope _ fileScoped _ => ! fileScoped
  | .typeDecl .. => true
  | .block => true

/-- The node that is declared when a frame is closed; a block declares none. -/
def Frame.node? : Frame → Option OutlineNode
  | .scope name fileScoped members => some (.scope name fileScoped members.reverse)
  | .typeDecl kind name modifiers bases members =>
    some (.typeDecl kind name modifiers bases members.reverse)
  | .block => none

/-- What is open, innermost first, the nodes declared outside of everything, the last one first, and
whether every closing brace closed something. -/
structure Builder where
  frames : List Frame
  top : List OutlineNode
  balanced : Bool
deriving Repr

namespace Builder

def start : Builder := ⟨[], [], true⟩

/-- Declares a node in the innermost frame that can hold it. -/
def declareIn (n : OutlineNode) (top : List OutlineNode) :
    List Frame → List Frame × List OutlineNode
  | [] => ([], n :: top)
  | .scope name fileScoped members :: rest => (.scope name fileScoped (n :: members) :: rest, top)
  | .typeDecl kind name modifiers bases members :: rest =>
    (.typeDecl kind name modifiers bases (n :: members) :: rest, top)
  | .block :: rest =>
    let (rest, top) := declareIn n top rest
    (.block :: rest, top)

def declare (b : Builder) (n : OutlineNode) : Builder :=
  let (frames, top) := declareIn n b.top b.frames
  { b with frames, top }

def push (b : Builder) (f : Frame) : Builder :=
  { b with frames := f :: b.frames }

/-- Closes a frame that was just taken off the stack. -/
def close (b : Builder) (f : Frame) : Builder :=
  match f.node? with
  | some n => b.declare n
  | none => b

/-- Closes frames up to the innermost one with a brace; `size` is the height of the stack. -/
def closeBrace (b : Builder) : (size : Nat) → Builder
  | 0 => { b with balanced := false }
  | size + 1 =>
    match b.frames with
    | [] => { b with balanced := false }
    | f :: rest =>
      let b := close { b with frames := rest } f
      if f.braced then b else closeBrace b size

def step (b : Builder) : Token → Builder
  | .directive text target isGlobal alias? =>
    b.declare (.directive (.ofList target) (.ofList text) isGlobal (alias?.map .ofList))
  | .scope name fileScoped => b.push (.scope (.ofList name) fileScoped [])
  | .typeHead mods kind name bases =>
    b.push (.typeDecl (.ofList kind) (.ofList name) (mods.map .ofList) (bases.map .ofList) [])
  | .nameBody text => b.declare (.property "Name" (.expressionBody (.literal (.ofList text))))
  | .nameGetter text =>
    ((b.declare (.property "Name" (.getter (some (.literal (.ofList text)))))).push .block).push
      .block
  | .openBrace => b.push .block
  | .closeBrace => b.closeBrace (b.frames.length + 1)

/-- Closes everything that is open; what has a brace should have been closed. -/
def finish (b : Builder) : (size : Nat) → Builder
  | 0 => b
  | size + 1 =>
    match b.frames with
    | [] => b
    | f :: rest =>
      finish (close { b with frames := rest, balanced := b.balanced && ! f.braced } f) size

end Builder

/-- The outline of a source text, and whether its braces match. -/
def ofText (text : String) : List OutlineNode × Bool :=
  let b := (scan text.toList).foldl Builder.step .start
  let b := b.finish b.frames.length
  (b.top.reverse, b.balanced)

/-- The diagnostic for braces that do not match; it stands on the last line. -/
def braceExpected (source : Path) (text : String) : Diagnostic where
  severity := .error
  code := some "CS1513"
  message := "\x7d expected"
  sourceFile := some source
  line := some (.ofNat (max 1 (Text.lines text).length))

/-- The tree of a source. -/
def parse (source : Path) (text : String) : SyntaxTree :=
  let (outline, balanced) := ofText text
  ⟨source, outline, if balanced then [] else [braceExpected source text]⟩

end PluginForge.Outline
