/-
A compile service for trying the engine out. It understands as much of a source as its outline shows,
emits a stand-in library, and has scripts that echo what they are given. Its answers can be set in
advance: by rules that say to which calls they apply and, for emit calls, by a queue.
-/
import PluginForge.Compiler.Outline.Scanner
import PluginForge.Compiler.Service
import PluginForge.Encoding.Source

namespace PluginForge

/-- The smallest library that looks loadable. -/
def standInLibrary : Bytes :=
  [0x4D, 0x5A] ++ List.replicate 58 0 ++ [0x40, 0, 0, 0] ++ [0x50, 0x45, 0, 0] ++
    List.replicate 60 0

/-- The output of an emit call for which nothing else was set. -/
def EmitOutput.standIn : EmitOutput where
  success := true
  binary := standInLibrary
  debugSymbols := some (Encoding.toUtf8 "symbols")
  diagnostics := []

/-- The output of an emit call that fails. -/
def EmitOutput.failed (ds : List Diagnostic) : EmitOutput where
  success := false
  binary := []
  debugSymbols := none
  diagnostics := ds

namespace Scripted

/-! ## Answers set in advance -/

/-- An answer for the calls with a certain name and a certain text somewhere in the source. -/
structure Rule (α : Type) where
  name : Option String
  contains : Option String
  answer : α

/-- The answer of the first rule that applies. -/
def Rule.find? {α : Type} (rules : List (Rule α)) (name source : String) : Option α :=
  (rules.find? fun r => r.name.all (· = name) && r.contains.all (Text.occurs · source)).map
    Rule.answer

/-- The answer to an emit call: a fixed one, or the complaint that the first import of the first
source cannot be found. -/
inductive EmitAnswer where
  | fixed (o : Outcome EmitOutput)
  | blameFirstImport

/-- What is set for a script: whether it compiles, with which diagnostics and, if it is to crash when
it runs, what the crash leaves behind. -/
structure ScriptAnswer where
  success : Bool
  diagnostics : List Diagnostic
  crash : Option (Option String)

structure Rules where
  parse : List (Rule (Outcome (List OutlineNode × List Diagnostic)))
  emit : List (Rule EmitAnswer)
  script : List (Rule (Outcome ScriptAnswer))

/-! ## Emitting -/

/-- What the first import of a text imports. -/
def firstImport? (text : String) : Option String :=
  (Text.lines text).findSome? fun line =>
    (Chars.after? "using ".toList line.toList).map fun r =>
      .ofList (Chars.trimEndOf (· == ';') r)

/-- The complaint that a name cannot be found. -/
def notFound (name : String) : Diagnostic :=
  { Diagnostic.plainError ("The type or namespace name '" ++ name ++ "' could not be found") with
    code := some "CS0246" }

def EmitAnswer.outcome (request : EmitRequest) : EmitAnswer → Outcome EmitOutput
  | .fixed o => o
  | .blameFirstImport =>
    let name := request.sources.head?.bind fun s => firstImport? s.text
    .answer (.failed [notFound (name.getD "Nothing")])

/-- Emits as the queue says, or else the rules; the queue loses its first answer. -/
def emit (rules : Rules) (request : EmitRequest) (queue : List EmitAnswer) :
    Outcome EmitOutput × List EmitAnswer :=
  match queue with
  | a :: queue => (a.outcome request, queue)
  | [] =>
    let source := "\n".intercalate (request.sources.map SourceFile.text)
    match Rule.find? rules.emit request.assemblyName source with
    | some a => (a.outcome request, [])
    | none => (.answer .standIn, [])

/-! ## Parsing -/

def parse (rules : Rules) (source : SourceFile) : Outcome SyntaxTree :=
  match Rule.find? rules.parse source.path.text source.text with
  | some (.answer (outline, diagnostics)) => .answer ⟨source.path, outline, diagnostics⟩
  | some (.failure e) => .failure e
  | some (.crash text) => .crash text
  | none => .answer (Outline.parse source.path source.text)

/-! ## Scripts -/

/-- The code of a script: one that echoes its name and its context, or one that crashes. -/
inductive Code where
  | echo (name source : String)
  | crash (text : Option String)

/-- The number in `label(number)` at the start of a text. -/
def argument? (label s : List Char) : Option Nat := do
  let r ← Chars.after? (label ++ ['(']) s
  let digits := r.takeWhile Chars.isDigit
  match digits, r.dropWhile Chars.isDigit with
  | _ :: _, ')' :: _ =>
    if digits.all Char.isDigit && Chars.ofDigits digits < UInt64.size then some (Chars.ofDigits digits)
    else some 0
  | _, _ => none

/-- The number in the first `label(number)` of a text. -/
def firstArgument? (label : List Char) : List Char → Option Nat
  | [] => none
  | c :: s => (argument? label (c :: s)).or (firstArgument? label s)

/-- The milliseconds that a script sleeps. -/
def sleepTime (source : String) : Nat :=
  (firstArgument? "Thread.Sleep".toList source.toList).getD 0

/-- Runs a script: it sleeps as long as its source says, and fails if that throws. -/
def run (code : Code) (context : Json) : ScriptRun :=
  match code with
  | .crash text => ⟨.crash text, 0⟩
  | .echo name source =>
    if Text.occurs "throw" source then
      ⟨.failure (name ++ " threw an exception"), sleepTime source⟩
    else ⟨.value (Json.sorted [("script", .str name), ("context", context)]), sleepTime source⟩

/-- The diagnostic of a script that asks for an error. -/
def rejected : Diagnostic :=
  { Diagnostic.plainError "#error: 'script rejected'" with code := some "CS1029" }

def compileScript (rules : Rules) (request : ScriptRequest) : Outcome (ScriptBuild Code) :=
  match Rule.find? rules.script request.name request.source with
  | some (.answer a) => .answer ⟨a.success, a.diagnostics, a.crash.map .crash⟩
  | some (.failure e) => .failure e
  | some (.crash text) => .crash text
  | none =>
    if Text.occurs "#error" request.source then .answer ⟨false, [rejected], none⟩
    else .answer ⟨true, [], some (.echo request.name request.source)⟩

/-- The service; its state is the queue of answers to emit calls. -/
def service (rules : Rules) : CompileService (List EmitAnswer) Code where
  parse := fun source _ queue => (parse rules source, queue)
  emit := emit rules
  compileScript := fun request queue => (compileScript rules request, queue)
  run := fun code context queue => (run code context, queue)

end Scripted
end PluginForge
