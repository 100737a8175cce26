/-
The engine's scripts when many callers come at once. Callers have scripts compiled, compile them
anew and take them off the shelf. Whoever compiles a script holds its key meanwhile; others who come
for the same key sleep until keys are given back.

A step is what a caller does without another one coming in between. The held keys and the shelf are
each behind a lock of their own, and a step looks at one of them or changes it; none needs both. What
a caller finds to reference and what the compiler answers is left open, since files, the reference
set and the compiler may change between any two steps. A caller that unwinds still gives back what
it holds.
-/
import Mathlib.Logic.Function.Basic
import PluginForge.Engine.Scripts

namespace PluginForge

/-! ## Callers -/

/-- A script that a caller wants compiled. -/
structure ScriptJob where
  name : String
  source : String
  imports : List String

namespace ScriptJob

def key (job : ScriptJob) : String :=
  Script.key job.name

def hash (job : ScriptJob) : String :=
  Script.contentHash job.source job.imports

/-- What goes on the shelf once there is code. -/
def entry {ρ : Type} (job : ScriptJob) (code : ρ) : Script.Entry ρ :=
  ⟨job.name, job.hash, code⟩

end ScriptJob

/-- How far a caller is. -/
inductive CallerStage (ρ : Type) where
  /-- In no call. -/
  | idle
  /-- Told to compile a script anew, and about to take it off the shelf. -/
  | evicting (job : ScriptJob)
  /-- About to look whether the key of its script is held. -/
  | arriving (job : ScriptJob)
  /-- Asleep, since the key was held. -/
  | waiting (job : ScriptJob)
  /-- About to look on the shelf. -/
  | checking (job : ScriptJob)
  /-- About to ask for references. -/
  | resolving (job : ScriptJob)
  /-- In a call of the compiler. -/
  | asking (job : ScriptJob) (request : ScriptRequest)
  /-- About to put code on the shelf. -/
  | storing (job : ScriptJob) (code : ρ)
  /-- About to give its key back. There is no result when it unwinds. -/
  | leaving (job : ScriptJob) (result : Option (Except ScriptError PrecompileStatus))

namespace CallerStage

variable {ρ : Type}

/-- The job whose key a caller holds. -/
def held? : CallerStage ρ → Option ScriptJob
  | .checking job | .resolving job | .asking job _ | .storing job _ | .leaving job _ => some job
  | .idle | .evicting _ | .arriving _ | .waiting _ => none

/-- The key that a caller holds. -/
def key? (st : CallerStage ρ) : Option String :=
  st.held?.map ScriptJob.key

/-- Whether a caller is having a script compiled, from asking for its key to giving it back. -/
def isInside : CallerStage ρ → Bool
  | .idle | .evicting _ => false
  | _ => true

/-- A caller after keys were given back: if it slept, it looks again. -/
def woken : CallerStage ρ → CallerStage ρ
  | .waiting job => .arriving job
  | st => st

end CallerStage

/-- Callers with what they share. -/
structure Callers (ι ρ : Type) where
  shelf : Script.Shelf ρ
  /-- The keys that are held. -/
  compiling : List String
  stage : ι → CallerStage ρ

namespace Callers

variable {ι ρ : Type} [DecidableEq ι]

/-- No caller has begun. -/
def start (shelf : Script.Shelf ρ) : Callers ι ρ :=
  ⟨shelf, [], fun _ => .idle⟩

/-- One caller goes on. -/
def put (c : Callers ι ρ) (i : ι) (st : CallerStage ρ) : Callers ι ρ :=
  { c with stage := Function.update c.stage i st }

/-- A caller holds a key from here on. -/
def hold (c : Callers ι ρ) (key : String) : Callers ι ρ :=
  { c with compiling := key :: c.compiling }

/-- A caller gives a key back and is done; whoever sleeps is woken. -/
def giveBack (c : Callers ι ρ) (i : ι) (key : String) : Callers ι ρ where
  shelf := c.shelf
  compiling := c.compiling.filter (· ≠ key)
  stage := Function.update (CallerStage.woken ∘ c.stage) i .idle

end Callers

/-! ## Steps -/

/-- What a caller does in a step. -/
inductive CallerAction (ρ : Type) where
  | clear (name : Option String) (count : Nat)
  | precompile (job : ScriptJob)
  | recompile (job : ScriptJob)
  | evict
  | wait
  | wake
  | take
  | check (held : Bool)
  | giveUp (err : ReferenceError)
  | ask (request : ScriptRequest)
  | answer (request : ScriptRequest) (answer : Outcome (ScriptBuild ρ))
  | store (code : ρ)
  | unwind
  | leave (result : Option (Except ScriptError PrecompileStatus))

/-- Whether a step brings the caller nearer to the end of its call. -/
def CallerAction.goesOn {ρ : Type} : CallerAction ρ → Bool
  | .evict | .take | .check _ | .giveUp _ | .ask _ | .answer .. | .store _ | .leave _ => true
  | .clear .. | .precompile _ | .recompile _ | .wait | .wake | .unwind => false

namespace Engine

variable {ι φ σ ρ : Type} [DecidableEq ι] (e : Engine φ σ ρ)

/-- The steps of a caller `i`. -/
inductive CallerStep (i : ι) : Callers ι ρ → CallerAction ρ → Callers ι ρ → Prop
  | clear {c} (name : Option String) (h : c.stage i = .idle) :
      CallerStep i c (.clear name (c.shelf.clear name).1)
        { c with shelf := (c.shelf.clear name).2 }
  | precompile {c} (job : ScriptJob) (h : c.stage i = .idle) :
      CallerStep i c (.precompile job) (c.put i (.arriving job))
  | recompile {c} (job : ScriptJob) (h : c.stage i = .idle) :
      CallerStep i c (.recompile job) (c.put i (.evicting job))
  | evict {c job} (h : c.stage i = .evicting job) :
      CallerStep i c .evict ({ c with shelf := c.shelf.erase job.name }.put i (.arriving job))
  | wait {c job} (h : c.stage i = .arriving job) (busy : job.key ∈ c.compiling) :
      CallerStep i c .wait (c.put i (.waiting job))
  /-- A sleeper may also wake without any key having been given back. -/
  | wake {c job} (h : c.stage i = .waiting job) :
      CallerStep i c .wake (c.put i (.arriving job))
  | take {c job} (h : c.stage i = .arriving job) (free : job.key ∉ c.compiling) :
      CallerStep i c .take ((c.hold job.key).put i (.checking job))
  | hit {c job} (h : c.stage i = .checking job) (held : c.shelf.holds job.name job.hash = true) :
      CallerStep i c (.check true) (c.put i (.leaving job (some (.ok .cached))))
  | miss {c job} (h : c.stage i = .checking job)
      (held : c.shelf.holds job.name job.hash = false) :
      CallerStep i c (.check false) (c.put i (.resolving job))
  | giveUp {c job} (err : ReferenceError) (h : c.stage i = .resolving job) :
      CallerStep i c (.giveUp err) (c.put i (.leaving job (some (.error (.reference err)))))
  | ask {c job} (libraries : List Path) (h : c.stage i = .resolving job) :
      CallerStep i c (.ask (e.scriptRequest job.name job.source job.imports libraries))
        (c.put i (.asking job (e.scriptRequest job.name job.source job.imports libraries)))
  | built {c job request answer code} (h : c.stage i = .asking job request)
      (result : codeFrom job.name answer = .ok code) :
      CallerStep i c (.answer request answer) (c.put i (.storing job code))
  | failed {c job request answer err} (h : c.stage i = .asking job request)
      (result : codeFrom job.name answer = .error err) :
      CallerStep i c (.answer request answer) (c.put i (.leaving job (some (.error err))))
  | store {c job code} (h : c.stage i = .storing job code) :
      CallerStep i c (.store code)
        ({ c with shelf := c.shelf.insert (job.entry code) }.put i
          (.leaving job (some (.ok .compiled))))
  | unwind {c job} (h : (c.stage i).held? = some job) :
      CallerStep i c .unwind (c.put i (.leaving job none))
  | leave {c job result} (h : c.stage i = .leaving job result) :
      CallerStep i c (.leave result) (c.giveBack i job.key)

/-- Steps of callers in any order. -/
inductive CallerRun : Callers ι ρ → List (ι × CallerAction ρ) → Callers ι ρ → Prop
  | nil {c} : CallerRun c [] c
  | cons {c c' c'' i a trace} (step : e.CallerStep i c a c') (rest : CallerRun c' trace c'') :
      CallerRun c ((i, a) :: trace) c''

/-- What callers can come to, whatever was on the shelf before the first of them began. -/
def CallersReach (c : Callers ι ρ) : Prop :=
  ∃ shelf trace, e.CallerRun (.start shelf) trace c

end Engine
end PluginForge
