/-
The artifacts of a build: for each group its library and, where the compiler made them, its debug
symbols. They lie directly in the output directory under the group's safe name.
-/
import PluginForge.Compiler.Request
import PluginForge.Reference.Resolve
import PluginForge.Report.FileName

namespace PluginForge.Artifact

/-- The extension of debug symbols. -/
def symbolsExtension : String := "pdb"

/-- The place of a group's artifact in a directory. -/
def path (dir : Path) (key extension : String) : Path :=
  dir.join (safeName key ++ "." ++ extension)

variable {φ : Type} (fs : FileSystem φ)

/-- Removes the artifacts of earlier builds; a directory that is not there is made. What cannot be
removed stays. -/
def clean (dir : Path) (files : φ) : φ :=
  if fs.isDir dir files then
    let (_, files) := fs.removeListed dir libraryExtension files
    (fs.removeListed dir symbolsExtension files).2
  else (fs.makeDir dir files).2

/-- Writes the artifacts that an output holds, each with its bytes, up to the first failure. -/
def writeAll : List (Path × Bytes) → φ → Except StoreError Unit × φ
  | [], files => (.ok (), files)
  | (p, bytes) :: rest, files =>
    match fs.write p bytes files with
    | (.ok (), files) => writeAll rest files
    | (.error e, files) => (.error e, files)

/-- The artifacts of a group: the library first. -/
def ofOutput (dir : Path) (key : String) (output : EmitOutput) : List (Path × Bytes) :=
  (path dir key libraryExtension, output.binary) ::
    output.debugSymbols.toList.map fun symbols => (path dir key symbolsExtension, symbols)

/-- Writes the artifacts of a group and returns their places. -/
def write (dir : Path) (key : String) (output : EmitOutput) (files : φ) :
    Except StoreError (List Path) × φ :=
  match fs.makeDir dir files with
  | (.error e, files) => (.error e, files)
  | (.ok (), files) =>
    match writeAll fs (ofOutput dir key output) files with
    | (.error e, files) => (.error e, files)
    | (.ok (), files) => (.ok ((ofOutput dir key output).map (·.1)), files)

end PluginForge.Artifact
