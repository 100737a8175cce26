/-
What the engine asks of a compiler and what it gets back: sources, requests to emit a library and to
compile a script, and the emitted bytes, each with its JSON form.
-/
import PluginForge.Compiler.Outline
import PluginForge.Settings.LanguageVersion

namespace PluginForge

/-- A source text and the file it stands for. -/
structure SourceFile where
  path : Path
  text : String
deriving DecidableEq, Repr

namespace SourceFile

def toJson (s : SourceFile) : Json :=
  .obj [("path", s.path.toJson), ("text", .str s.text)]

open Json.Draft in
def ofDraft? (d : Json.Draft) : Option SourceFile :=
  match record? ["path", "text"] d with
  | some [path, text] => do
    return { path := ← required Path.ofDraft? path, text := ← required string? text }
  | _ => none

end SourceFile

/-- How a library is emitted. -/
structure EmitPolicy where
  outputKind : String
  optimization : String
  overflowChecks : Bool
  allowUnsafe : Bool
  debugSymbols : Bool
deriving DecidableEq, Repr

namespace EmitPolicy

/-- The policy of every build. -/
def standard : EmitPolicy where
  outputKind := "DynamicallyLinkedLibrary"
  optimization := "Release"
  overflowChecks := false
  allowUnsafe := true
  debugSymbols := true

def toJson (p : EmitPolicy) : Json :=
  .obj [("outputKind", .str p.outputKind), ("optimization", .str p.optimization),
    ("overflowChecks", .bool p.overflowChecks), ("allowUnsafe", .bool p.allowUnsafe),
    ("debugSymbols", .bool p.debugSymbols)]

open Json.Draft in
def ofDraft? (d : Json.Draft) : Option EmitPolicy :=
  match record? ["outputKind", "optimization", "overflowChecks", "allowUnsafe", "debugSymbols"] d
  with
  | some [kind, optimization, checks, allow, symbols] => do
    return {
      outputKind := ← required string? kind
      optimization := ← required string? optimization
      overflowChecks := ← required bool? checks
      allowUnsafe := ← required bool? allow
      debugSymbols := ← required bool? symbols }
  | _ => none

end EmitPolicy

/-- A request to emit one library from sources in order. -/
structure EmitRequest where
  assemblyName : String
  sources : List SourceFile
  languageVersion : LanguageVersion
  references : List Path
  policy : EmitPolicy
deriving DecidableEq, Repr

namespace EmitRequest

def toJson (r : EmitRequest) : Json :=
  .obj [("assemblyName", .str r.assemblyName), ("sources", .arr (r.sources.map SourceFile.toJson)),
    ("languageVersion", r.languageVersion.toJson),
    ("references", .arr (r.references.map Path.toJson)), ("policy", r.policy.toJson)]

open Json.Draft in
def ofDraft? (d : Json.Draft) : Option EmitRequest :=
  match record? ["assemblyName", "sources", "languageVersion", "references", "policy"] d with
  | some [name, sources, version, references, policy] => do
    return {
      assemblyName := ← required string? name
      sources := ← required (list? SourceFile.ofDraft?) sources
      languageVersion := ← required LanguageVersion.ofDraft? version
      references := ← required (list? Path.ofDraft?) references
      policy := ← required EmitPolicy.ofDraft? policy }
  | _ => none

end EmitRequest

/-- The result of an emit call. -/
structure EmitOutput where
  success : Bool
  binary : List UInt8
  debugSymbols : Option (List UInt8)
  diagnostics : List Diagnostic
deriving DecidableEq, Repr

namespace EmitOutput

def bytesToJson (bytes : List UInt8) : Json :=
  .arr (bytes.map fun b => .ofNat b.toNat)

def toJson (o : EmitOutput) : Json :=
  .obj [("success", .bool o.success), ("binary", bytesToJson o.binary),
    ("debugSymbols", .ofOption bytesToJson o.debugSymbols),
    ("diagnostics", .arr (o.diagnostics.map Diagnostic.toJson))]

open Json.Draft in
def ofDraft? (d : Json.Draft) : Option EmitOutput :=
  match record? ["success", "binary", "debugSymbols", "diagnostics"] d with
  | some [success, binary, symbols, diagnostics] => do
    return {
      success := ← required bool? success
      binary := ← optional (list? uint8?) [] binary
      debugSymbols := ← optional (option? (list? uint8?)) none symbols
      diagnostics := ← optional (list? Diagnostic.ofDraft?) [] diagnostics }
  | _ => none

end EmitOutput

/-- A request to compile one script. -/
structure ScriptRequest where
  name : String
  source : String
  imports : List String
  references : List Path
  languageVersion : LanguageVersion
deriving DecidableEq, Repr

namespace ScriptRequest

def toJson (r : ScriptRequest) : Json :=
  .obj [("name", .str r.name), ("source", .str r.source), ("imports", .strings r.imports),
    ("references", .arr (r.references.map Path.toJson)),
    ("languageVersion", r.languageVersion.toJson)]

open Json.Draft in
def ofDraft? (d : Json.Draft) : Option ScriptRequest :=
  match record? ["name", "source", "imports", "references", "languageVersion"] d with
  | some [name, source, imports, references, version] => do
    return {
      name := ← required string? name
      source := ← required string? source
      imports := ← required (list? string?) imports
      references := ← required (list? Path.ofDraft?) references
      languageVersion := ← required LanguageVersion.ofDraft? version }
  | _ => none

end ScriptRequest
end PluginForge
