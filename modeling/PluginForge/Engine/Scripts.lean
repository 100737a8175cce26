/-
The engine's scripts. A script is compiled once and kept until its content changes or it is taken
off the shelf; a compile that fails leaves the shelf as it is.
-/
import PluginForge.Engine.Basic
import PluginForge.Report.Message
import PluginForge.Script.ContentHash
import PluginForge.Script.Error

namespace PluginForge

/-- What a request to have a script compiled did. -/
inductive PrecompileStatus where
  | cached
  | compiled
deriving DecidableEq, Repr

def PrecompileStatus.name : PrecompileStatus → String
  | .cached => "Cached"
  | .compiled => "Compiled"

/-- How many scripts of a directory there are, and how many of them could and could not be
compiled. -/
structure BatchSummary where
  total : Nat
  succeeded : Nat
  failed : Nat
deriving DecidableEq, Repr

/-- Takes one script off the shelf, or all of them; returns how many there were. -/
def EngineState.clearScripts {φ σ ρ : Type} (name : Option String) (s : EngineState φ σ ρ) :
    Nat × EngineState φ σ ρ :=
  let (n, scripts) := s.scripts.clear name
  (n, { s with scripts })

namespace Engine

variable {φ σ ρ : Type} (e : Engine φ σ ρ)

/-! ## Compiling -/

/-- The request for a script: the imports given with it are put in front of the source, unless it
has them. -/
def scriptRequest (name source : String) (imports : List String) (references : List Path) :
    ScriptRequest where
  name
  source := Import.addDefaults source (Import.declared source) imports
  imports := e.settings.scriptImports
  references
  languageVersion := e.settings.languageVersion

/-- The code of a script that was compiled. -/
def codeOf (name : String) (build : ScriptBuild ρ) : Except ScriptError ρ :=
  match build.success, build.code with
  | true, some code => .ok code
  | _, _ =>
    .error (.compile name
      ((build.diagnostics.filter Diagnostic.isError).map fun d => Message.toChinese d.message))

/-- The code that an answer of the compiler brings. -/
def codeFrom (name : String) (answer : Outcome (ScriptBuild ρ)) : Except ScriptError ρ :=
  match answer.guarded with
  | .error err => .error (.service err)
  | .ok build => codeOf name build

/-- Compiles a script against the references and the extra assemblies that can be loaded. -/
def compileScript (name source : String) (imports : List String) (s : EngineState φ σ ρ) :
    Except ScriptError ρ × EngineState φ σ ρ :=
  match e.takeReferences s with
  | (.error err, s) => (.error (.reference err), s.dropReferences)
  | (.ok references, s) =>
    let extra := Reference.loadablePaths e.store s.files e.extraAssemblies
    let request := e.scriptRequest name source imports (Reference.withExtra references extra)
    let (answer, service) := e.service.compileScript request s.service
    (codeFrom name answer, { s.dropReferences with service })

/-- Compiles a script, unless the one kept under its name has the same content. -/
def precompile (name source : String) (imports : List String) (s : EngineState φ σ ρ) :
    Except ScriptError PrecompileStatus × EngineState φ σ ρ :=
  let hash := Script.contentHash source imports
  if s.scripts.holds name hash then (.ok .cached, s)
  else
    match e.compileScript name source imports s with
    | (.error err, s) => (.error err, s)
    | (.ok code, s) => (.ok .compiled, { s with scripts := s.scripts.insert ⟨name, hash, code⟩ })

/-- Takes a script off the shelf and compiles it. -/
def recompile (name source : String) (imports : List String) (s : EngineState φ σ ρ) :
    Except ScriptError PrecompileStatus × EngineState φ σ ρ :=
  e.precompile name source imports { s with scripts := s.scripts.erase name }

/-! ## Running -/

/-- How a run is reported: one that takes up its time limit counts as timed out. -/
def runOutcome (name : String) (limit : Nat) (r : ScriptRun) : Except ScriptError Json :=
  if limit ≤ r.duration then .error (.timeout name limit)
  else
    match r.result with
    | .value j => .ok j
    | .failure detail => .error (.execution name detail)
    | .crash text => .error (.execution name (crashText text))

/-- Runs a compiled script with a context, for at most `limit` milliseconds. -/
def run (name : String) (context : Json) (limit : Nat) (s : EngineState φ σ ρ) :
    Except ScriptError Json × EngineState φ σ ρ :=
  match s.scripts.find? name with
  | none => (.error (.notCompiled name), s)
  | some entry =>
    let (r, service) := e.service.run entry.code context s.service
    (runOutcome name limit r, { s with service })

/-! ## Script files -/

/-- The extension of script files. -/
def scriptExtension : String := "csx"

/-- The name under which a script file is kept. -/
def scriptName (p : Path) : String :=
  p.stem?.getD "script"

/-- Reads a script file. -/
def readScript (p : Path) (files : φ) : Except StoreError String :=
  (e.store.read p files).map fun bytes => (Encoding.decode bytes).1

/-- Compiles script files and counts them. -/
def precompileFiles (imports : List String) (summary : BatchSummary) :
    List Path → EngineState φ σ ρ → BatchSummary × EngineState φ σ ρ
  | [], s => (summary, s)
  | p :: rest, s =>
    let summary := { summary with total := summary.total + 1 }
    match p.stem?, e.readScript p s.files with
    | some name, .ok source =>
      match e.precompile name source imports s with
      | (.ok _, s) =>
        precompileFiles imports { summary with succeeded := summary.succeeded + 1 } rest s
      | (.error _, s) =>
        precompileFiles imports { summary with failed := summary.failed + 1 } rest s
    | _, _ => precompileFiles imports { summary with failed := summary.failed + 1 } rest s

/-- Compiles the script files below a directory, each under its name without the extension. A
directory that is not there is made. -/
def precompileDir (dir : Path) (imports : List String) (s : EngineState φ σ ρ) :
    Except ScriptError BatchSummary × EngineState φ σ ρ :=
  if e.store.isDir dir s.files then
    match e.store.list dir scriptExtension true s.files with
    | .error err => (.error (.store err), s)
    | .ok paths =>
      let (summary, s) := e.precompileFiles imports ⟨0, 0, 0⟩ paths s
      (.ok summary, s)
  else
    match e.store.makeDir dir s.files with
    | (.error err, files) => (.error (.store err), { s with files })
    | (.ok (), files) => (.ok ⟨0, 0, 0⟩, { s with files })

/-- Reads a script file, compiles it unless it is kept, and runs it. -/
def runScriptFile (p : Path) (context : Json) (limit : Nat) (s : EngineState φ σ ρ) :
    Except ScriptFileError Json × EngineState φ σ ρ :=
  match e.readScript p s.files with
  | .error err => (.error (.store err), s)
  | .ok source =>
    match e.precompile (scriptName p) source [] s with
    | (.error err, s) => (.error (.script err), s)
    | (.ok _, s) =>
      let (r, s) := e.run (scriptName p) context limit s
      (r.mapError .script, s)

end Engine
end PluginForge
