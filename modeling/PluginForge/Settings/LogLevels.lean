/-
The stages of the engine and the level of detail that is logged for each: a level for all of them,
raised by `-v`, and overrides of the form `stage=level`.
-/
import PluginForge.Text
import PluginForge.Text.Lowercase

namespace PluginForge

/-- A stage of the engine. -/
inductive Stage where
  | ingest
  | imports
  | group
  | references
  | compile
  | report
  | script
deriving DecidableEq, Repr

namespace Stage

def all : List Stage :=
  [.ingest, .imports, .group, .references, .compile, .report, .script]

def name : Stage → String
  | .ingest => "ingest"
  | .imports => "imports"
  | .group => "group"
  | .references => "references"
  | .compile => "compile"
  | .report => "report"
  | .script => "script"

/-- The name under which the stage's events are logged. -/
def logTarget (s : Stage) : String :=
  "hotbuild::" ++ s.name

/-- The stage of that name, in any ASCII case. -/
def ofName? (name : String) : Option Stage :=
  all.find? fun s => Text.lowerAscii s.name = Text.lowerAscii name

end Stage

inductive LogLevel where
  | error
  | warn
  | info
  | debug
  | trace
deriving DecidableEq, Repr

namespace LogLevel

def name : LogLevel → String
  | .error => "ERROR"
  | .warn => "WARN"
  | .info => "INFO"
  | .debug => "DEBUG"
  | .trace => "TRACE"

def ofName? (name : String) : Option LogLevel :=
  match Text.lowercase name with
  | "error" => some .error
  | "warn" => some .warn
  | "info" => some .info
  | "debug" => some .debug
  | "trace" => some .trace
  | _ => none

/-- The level for all stages when `-v` was given `n` times. -/
def ofVerbosity : (n : Nat) → LogLevel
  | 0 => .info
  | 1 => .debug
  | _ => .trace

end LogLevel

inductive LogLevelError where
  | noEquals (item : String)
  | unknownStage (name : String)
  | unknownLevel (name : String)
deriving DecidableEq, Repr

def LogLevelError.message : LogLevelError → String
  | .noEquals item => s!"expected stage=level, got '{item}'"
  | .unknownStage name => s!"unknown stage '{name}'"
  | .unknownLevel name => s!"unknown log level '{name}'"

structure LogLevels where
  global : LogLevel
  overrides : List (Stage × LogLevel)
deriving DecidableEq, Repr

namespace LogLevels

def parseOverride (item : String) : Except LogLevelError (Stage × LogLevel) :=
  match Chars.cut? '=' item.toList with
  | none => .error (.noEquals item)
  | some (stage, level) =>
    let stage := String.ofList (Chars.trim stage)
    let level := String.ofList (Chars.trim level)
    match Stage.ofName? stage, LogLevel.ofName? level with
    | none, _ => .error (.unknownStage stage)
    | some _, none => .error (.unknownLevel level)
    | some s, some l => .ok (s, l)

/-- The levels that a number of `-v` and some overrides ask for. The first bad override counts. -/
def ofArgs (verbosity : Nat) (overrides : List String) : Except LogLevelError LogLevels := do
  return ⟨.ofVerbosity verbosity, ← overrides.mapM parseOverride⟩

/-- The level of a stage: that of its last override, or else the one for all stages. -/
def levelFor (c : LogLevels) (s : Stage) : LogLevel :=
  match c.overrides.reverse.find? (·.1 = s) with
  | some (_, l) => l
  | none => c.global

end LogLevels
end PluginForge
