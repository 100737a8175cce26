/-
What a compiler says about a source: its diagnostics, with their JSON form.
-/
import PluginForge.Json.Reader
import PluginForge.Path

namespace PluginForge

def Path.ofDraft? (d : Json.Draft) : Option Path :=
  d.string?.map .mk

def Path.toJson (p : Path) : Json :=
  .str p.text

inductive Severity where
  | error
  | warning
  | info
deriving DecidableEq, Repr

namespace Severity

def name : Severity → String
  | .error => "error"
  | .warning => "warning"
  | .info => "info"

def ofName? : String → Option Severity
  | "error" => some .error
  | "warning" => some .warning
  | "info" => some .info
  | _ => none

def ofDraft? (d : Json.Draft) : Option Severity :=
  (d.caseName? Json.Draft.isNull).bind ofName?

end Severity

/-- One message of the compiler; lines are counted from one. -/
structure Diagnostic where
  severity : Severity
  code : Option String
  message : String
  sourceFile : Option Path
  line : Option UInt32
deriving DecidableEq, Repr

namespace Diagnostic

/-- An error that names neither a code nor a place. -/
def plainError (message : String) : Diagnostic :=
  ⟨.error, none, message, none, none⟩

def isError (d : Diagnostic) : Bool :=
  d.severity = .error

/-- The number of errors among some diagnostics. -/
def errorCount (ds : List Diagnostic) : Nat :=
  ds.countP isError

def toJson (d : Diagnostic) : Json :=
  .obj [
    ("severity", .str d.severity.name),
    ("code", .ofOption .str d.code),
    ("message", .str d.message),
    ("sourceFile", .ofOption Path.toJson d.sourceFile),
    ("line", .ofOption (fun n => .ofNat n.toNat) d.line)]

open Json.Draft in
def ofDraft? (d : Json.Draft) : Option Diagnostic :=
  match record? ["severity", "code", "message", "sourceFile", "line"] d with
  | some [severity, code, message, file, line] => do
    return {
      severity := ← required Severity.ofDraft? severity
      code := ← optional (option? string?) none code
      message := ← required string? message
      sourceFile := ← optional (option? Path.ofDraft?) none file
      line := ← optional (option? uint32?) none line }
  | _ => none

end Diagnostic
end PluginForge
