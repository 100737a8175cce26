/-
What the command line shows of builds: a line or more for each group and, at the end, the summary; or
why there is no report.
-/
import PluginForge.Build.Failure
import PluginForge.Build.Report

namespace PluginForge.CommandLine

/-- The text that a run of the program leaves: lines for its output and for its errors, and how it
ends. -/
structure Output where
  stdout : List String
  stderr : List String
  exit : Nat
deriving DecidableEq, Repr

namespace Output

/-- A run that shows some lines and ends well. -/
def shown (lines : List String) : Output := ⟨lines, [], 0⟩

/-- A run that ends with some lines about an error. -/
def failed (lines : List String) : Output := ⟨[], lines, 1⟩

/-- A run that ends with an error message. -/
def error (message : String) : Output := failed ["Error: " ++ message]

/-- What two parts of a run show, one after the other. -/
def append (a b : Output) : Output :=
  ⟨a.stdout ++ b.stdout, a.stderr ++ b.stderr, max a.exit b.exit⟩

end Output

/-! ## Groups -/

def groupLabel (o : GroupOutcome) : String :=
  match o.pluginName with
  | some plugin => o.key ++ " [" ++ plugin ++ "]"
  | none => o.key

/-- How a reason to stop is put to the user. -/
def stopLabel : Option StopReason → String
  | some .notRetryable => "not retryable"
  | some .nothingToRemove => "no import left to remove"
  | some .retriesExhausted => "retry budget exhausted"
  | some .serviceFailure => "compile service failure"
  | some .artifactWriteFailed => "artifact write failed"
  | none => "failed"

/-- The lines on a group that was built. -/
def successLines (o : GroupOutcome) : List String :=
  let count := toString o.files.length ++ " files"
  let count :=
    if o.attempts ≤ 1 then count
    else count ++ ", " ++ toString o.removedImports ++ " unresolved imports removed"
  ("  ✅ " ++ groupLabel o ++ " (" ++ count ++ ")") ::
    o.artifacts.map fun p => "       -> " ++ p.text

/-- The lines on a group that failed. -/
def failureLines (o : GroupOutcome) : List String :=
  ["  ❌ " ++ groupLabel o ++ " (" ++ toString o.attempts ++ " attempts, " ++
    stopLabel o.stopReason ++ ")"] ++
  o.message.toList.map ("       " ++ ·) ++
  (if o.diagnostics.isEmpty then []
    else (Text.lines (Report.consoleSummary (groupLabel o) o.diagnostics)).map ("       " ++ ·)) ++
  o.log.toList.map fun p => "       log: " ++ p.text

/-- What is shown of a group. -/
def showGroup (o : GroupOutcome) : Output :=
  if o.success then .shown (successLines o) else .failed (failureLines o)

/-! ## Builds -/

/-- What is shown of a build that took so many milliseconds. -/
def showReport (milliseconds : Nat) (r : BuildReport) : Output :=
  let groups : Output := (r.groups.map showGroup).foldl Output.append (.shown [])
  let skipped :=
    if r.skipped.isEmpty then []
    else ["⚠️  " ++ toString r.skipped.length ++ " file(s) skipped"]
  let mark := if r.allSucceeded then "✅" else "❌"
  groups.append (.shown (skipped ++ [mark ++ " " ++ r.summary (toString milliseconds)]))

/-- What is shown of a build that failed as a whole. -/
def showFailure (f : BuildFailure) : Output :=
  .failed (["❌ " ++ f.kind.name, "   " ++ f.message] ++ f.hints.map ("   - " ++ ·))

end PluginForge.CommandLine
