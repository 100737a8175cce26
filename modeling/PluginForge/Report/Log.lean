/-
Reports on failed compiles. Errors are summarized by source file for the console and collapsed by
their Chinese form in the log; in both, groups come in the order in which they are first seen.
-/
import PluginForge.Report.FileName
import PluginForge.Report.Message

namespace PluginForge

/-- Puts an item into the group of its key, or into a new group at the end. -/
def putIntoGroup {α κ : Type} [DecidableEq κ] (key : κ) (item : α) :
    List (κ × List α) → List (κ × List α)
  | [] => [(key, [item])]
  | (k, items) :: rest =>
    if k = key then (k, items ++ [item]) :: rest else (k, items) :: putIntoGroup key item rest

/-- Items grouped by key; groups come in the order of their first items, and items keep their
order. -/
def groupBy {α κ : Type} [DecidableEq κ] (key : α → κ) (items : List α) : List (κ × List α) :=
  items.foldl (fun groups item => putIntoGroup (key item) item groups) []

namespace Report

/-- The name of the file that a diagnostic is about. -/
def fileLabel (d : Diagnostic) : String :=
  (d.sourceFile.bind Path.fileName?).getD "Unknown"

/-- The errors by source file. -/
def errorsByFile (ds : List Diagnostic) : List (String × List Diagnostic) :=
  groupBy fileLabel (ds.filter Diagnostic.isError)

/-- The errors by the Chinese form of their message. -/
def errorsByMessage (ds : List Diagnostic) : List (String × List Diagnostic) :=
  groupBy (fun d => Message.toChinese d.message) (ds.filter Diagnostic.isError)

/-- What to look at after a failed compile. -/
def hints : List String := [
  "check the assemblies folder", "check that the import statements are correct",
  "check that the source files are complete", "check the log file"]

/-- Lines as a text; each ends in a line feed. -/
def unlines (lines : List String) : String :=
  String.join (lines.map (· ++ "\n"))

def rule (c : String) (width : Nat) : String :=
  Text.repeated c width

/-- The lines of the console summary of a failed group. -/
def consoleLines (name : String) (ds : List Diagnostic) : List String :=
  let groups := errorsByFile ds
  ["compile failed [" ++ name ++ "]", rule "-" 40,
    toString (groups.flatMap (·.2)).length ++ " error(s)"] ++
  groups.map (fun g => "  " ++ g.1 ++ ": " ++ toString g.2.length) ++
  ["suggestions:"] ++
  hints.mapIdx (fun i hint => "  " ++ toString (i + 1) ++ ". " ++ hint)

def consoleSummary (name : String) (ds : List Diagnostic) : String :=
  unlines (consoleLines name ds)

/-! ## Failure logs -/

/-- Which forms of a message a log shows. A log shows the message itself if it would otherwise show
nothing. -/
structure LogStyle where
  showEnglish : Bool
  showChinese : Bool
deriving DecidableEq, Repr

def LogStyle.ofFlags (english chinese : Bool) : LogStyle :=
  ⟨english || ! chinese, chinese⟩

/-- The line that says where an error is. -/
def locationLine (d : Diagnostic) : String :=
  match d.line with
  | some n => "  " ++ fileLabel d ++ " 行 " ++ toString n.toNat
  | none => "  " ++ fileLabel d

/-- The lines on the errors with one Chinese form. -/
def classLines (style : LogStyle) (index : Nat) (chinese : String) (ds : List Diagnostic) :
    List String :=
  ["", "[Error class " ++ toString (index + 1) ++ "] " ++ toString ds.length ++ " occurrence(s)",
    rule "-" 80, "Locations:"] ++
  ds.map locationLine ++
  ["", "Message:"] ++
  (if style.showEnglish then (ds.take 1).map fun d => "(EN): " ++ d.message else []) ++
  (if style.showChinese && chinese ≠ "" then ["(CN): " ++ chinese] else [])

/-- The text of the failure log of a group. -/
def renderLog (style : LogStyle) (name : String) (ds : List Diagnostic) (t : TimeStamp) : String :=
  let groups := errorsByMessage ds
  unlines (
    ["Compile error log - " ++ t.readable, "Group: " ++ name,
      "Total errors: " ++ toString (groups.flatMap (·.2)).length, rule "=" 80] ++
    (groups.mapIdx fun i g => classLines style i g.1 g.2).flatten)

end Report
end PluginForge
