/-
Script files that are run while others are run too. Whoever runs a script file reads it, has what it
read compiled under the name of the file, looks up what is on the shelf under that name and runs
that. Nothing holds these four together: others go on between them, and files change.

Some callers may also come to the shelf directly, not for a file. What they do is a step here too.
-/
import PluginForge.Engine.Callers

namespace PluginForge

/-- A script file to be run, with what it is given and the milliseconds that it may take. -/
structure FileRun where
  path : Path
  context : Json
  limit : Nat

namespace FileRun

/-- The name under which the script is compiled and looked up. -/
def name (run : FileRun) : String :=
  Engine.scriptName run.path

/-- What is to be compiled if the file reads `source`. -/
def job (run : FileRun) (source : String) : ScriptJob :=
  ⟨run.name, source, []⟩

end FileRun

/-- How far a caller is with a script file. -/
inductive FileStage (ρ : Type) where
  /-- It runs no file. -/
  | idle
  | reading (run : FileRun)
  /-- About to have compiled what it read. -/
  | submitting (run : FileRun) (source : String)
  | compiling (run : FileRun) (source : String)
  /-- Back from having it compiled, and about to look it up. -/
  | looking (run : FileRun) (source : String)
  | invoking (run : FileRun) (code : ρ)
  /-- There is no result when it unwinds. -/
  | returning (run : FileRun) (result : Option (Except ScriptFileError Json))

namespace FileStage

variable {ρ : Type} (run : FileRun)

def afterRead : Except StoreError String → FileStage ρ
  | .ok source => .submitting run source
  | .error err => .returning run (some (.error (.store err)))

/-- After a step of the call that has the script compiled. -/
def afterCompile (source : String) : CallerAction ρ → FileStage ρ
  | .leave (some (.ok _)) => .looking run source
  | .leave (some (.error err)) => .returning run (some (.error (.script err)))
  | .leave none => .returning run none
  | _ => .compiling run source

def afterLookUp : Option (Script.Entry ρ) → FileStage ρ
  | some entry => .invoking run entry.code
  | none => .returning run (some (.error (.script (.notCompiled run.name))))

def afterInvoke (r : ScriptRun) : FileStage ρ :=
  .returning run (some ((Engine.runOutcome run.name run.limit r).mapError .script))

end FileStage

/-- Callers and the files that they run. -/
structure FileRunners (ι ρ : Type) where
  callers : Callers ι ρ
  stage : ι → FileStage ρ

namespace FileRunners

variable {ι ρ : Type} [DecidableEq ι]

def start (shelf : Script.Shelf ρ) : FileRunners ι ρ :=
  ⟨.start shelf, fun _ => .idle⟩

/-- One caller goes on with its file. -/
def put (c : FileRunners ι ρ) (i : ι) (st : FileStage ρ) : FileRunners ι ρ :=
  { c with stage := Function.update c.stage i st }

end FileRunners

/-- What a caller does in a step. -/
inductive FileAction (ρ : Type) where
  | start (run : FileRun)
  | read (result : Except StoreError String)
  /-- What it does in a call that has a script compiled, at which stage of that call. -/
  | script (stage : CallerStage ρ) (action : CallerAction ρ)
  | lookUp (found : Option (Script.Entry ρ))
  | invoke (r : ScriptRun)
  | finish (result : Option (Except ScriptFileError Json))

namespace Engine

variable {ι φ σ ρ : Type} [DecidableEq ι] (e : Engine φ σ ρ) (direct : ι → Prop)

/-- The steps of a caller `i`. Only a caller in `direct` comes to the shelf otherwise than for a
file. -/
inductive FileStep (i : ι) : FileRunners ι ρ → FileAction ρ → FileRunners ι ρ → Prop
  | start {c} (run : FileRun) (h : c.stage i = .idle) (free : c.callers.stage i = .idle) :
      FileStep i c (.start run) (c.put i (.reading run))
  | read {c run} (files : φ) (h : c.stage i = .reading run) :
      FileStep i c (.read (e.readScript run.path files))
        (c.put i (.afterRead run (e.readScript run.path files)))
  | submit {c run source callers} (h : c.stage i = .submitting run source)
      (step : e.CallerStep i c.callers (.precompile (run.job source)) callers) :
      FileStep i c (.script (c.callers.stage i) (.precompile (run.job source)))
        ({ c with callers }.put i (.compiling run source))
  | compile {c run source a callers} (h : c.stage i = .compiling run source)
      (step : e.CallerStep i c.callers a callers) :
      FileStep i c (.script (c.callers.stage i) a)
        ({ c with callers }.put i (.afterCompile run source a))
  | lookUp {c run source} (h : c.stage i = .looking run source) :
      FileStep i c (.lookUp (c.callers.shelf.find? run.name))
        (c.put i (.afterLookUp run (c.callers.shelf.find? run.name)))
  | invoke {c run code} (s : σ) (h : c.stage i = .invoking run code) :
      FileStep i c (.invoke (e.service.run code run.context s).1)
        (c.put i (.afterInvoke run (e.service.run code run.context s).1))
  | finish {c run result} (h : c.stage i = .returning run result) :
      FileStep i c (.finish result) (c.put i .idle)
  | direct {c a callers} (may : direct i) (h : c.stage i = .idle)
      (step : e.CallerStep i c.callers a callers) :
      FileStep i c (.script (c.callers.stage i) a) { c with callers }

/-- Steps of callers in any order. -/
inductive FileSteps : FileRunners ι ρ → List (ι × FileAction ρ) → FileRunners ι ρ → Prop
  | nil {c} : FileSteps c [] c
  | concat {c c' c'' steps i a} (before : FileSteps c steps c')
      (step : e.FileStep direct i c' a c'') : FileSteps c (steps ++ [(i, a)]) c''

end Engine
end PluginForge
