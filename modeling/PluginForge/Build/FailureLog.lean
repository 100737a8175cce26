/-
The logs of failed groups. They lie directly in the log directory, named for the group and the time.
-/
import PluginForge.Encoding.Source
import PluginForge.Report.Log

namespace PluginForge.FailureLog

variable {φ : Type} (fs : FileSystem φ)

/-- Writes the log of a group and returns its place. -/
def write (style : Report.LogStyle) (dir : Path) (key name : String) (ds : List Diagnostic)
    (t : TimeStamp) (files : φ) : Except StoreError Path × φ :=
  match fs.makeDir dir files with
  | (.error e, files) => (.error e, files)
  | (.ok (), files) =>
    let p := dir.join (logFileName key t)
    match fs.write p (Encoding.toUtf8 (Report.renderLog style name ds t)) files with
    | (.error e, files) => (.error e, files)
    | (.ok (), files) => (.ok p, files)

/-- Removes the logs that lie in a directory; returns how many were removed. -/
def clear (dir : Path) (files : φ) : Nat × φ :=
  if fs.isDir dir files then fs.removeListed dir logExtension files else (0, files)

end PluginForge.FailureLog
