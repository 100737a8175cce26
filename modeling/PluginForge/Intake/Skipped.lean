/-
Source files that are passed over, and why.
-/
import PluginForge.Report.Log

namespace PluginForge

inductive SkipReason where
  | empty
  | blank
  /-- The file parses with this number of errors. -/
  | invalid (errors : Nat)
  | readFailed (detail : String)
  | parseFailed (detail : String)
deriving DecidableEq, Repr

def SkipReason.message : SkipReason → String
  | .empty => "(empty)"
  | .blank => "(blank)"
  | .invalid _ => "(invalid)"
  | .readFailed detail => "(read failed: " ++ detail ++ ")"
  | .parseFailed detail => "(parse failed: " ++ detail ++ ")"

structure SkippedFile where
  path : Path
  reason : SkipReason
deriving DecidableEq, Repr

namespace SkippedFile

/-- The number of files that a summary lists. -/
def summaryLimit : Nat := 10

def line (f : SkippedFile) : String :=
  "  " ++ f.path.fileName?.getD f.path.text ++ " " ++ f.reason.message

/-- The summary of some skipped files; there is none when none was skipped. -/
def summary? (files : List SkippedFile) : Option String :=
  if files.isEmpty then none
  else some (Report.unlines (
    ["skipped " ++ toString files.length ++ " file(s):"] ++
    (files.take summaryLimit).map line ++
    if files.length > summaryLimit then
      ["  ... and " ++ toString (files.length - summaryLimit) ++ " more"]
    else []))

end SkippedFile
end PluginForge
