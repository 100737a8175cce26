/-
The program. The parts of the disk that the arguments name are read into a tree, the run is made on
the tree, and what it changed is written back. Helper programs cannot be started from here, so every
call of the compiler fails as one to a program that is not there.
-/
import PluginForge.CommandLine.Run
import PluginForge.Store.Disk
import Std.Time.Zoned

namespace PluginForge.Program

open CommandLine

/-! ## Places on the disk -/

/-- The place of a path in the tree. -/
def placeOf (p : Path) : List String :=
  p.components.foldl (fun place c =>
    match c with
    | .name n => place ++ [.ofList n]
    | .up => place.dropLast
    | .root | .here => place) []

/-- The paths that a run may touch: its directories, and the files outside of them. -/
def reach (o : Options) (c : Command) : List Path × List Path :=
  let (dirs, files) := match c with
    | .build (some root) => ([root], [])
    | .script file .. => ([], [file])
    | _ => ([], [])
  (o.basePath :: dirs ++ o.host.toList ++ o.runtime.toList, files ++ o.logFile.toList)

/-- The name on the disk of a place at or below one of some paths. -/
def nameOf? (roots : List Path) (place : List String) : Option String :=
  roots.findSome? fun root =>
    if (placeOf root).isPrefixOf place then
      some ((place.drop (placeOf root).length).foldl Path.join root).text
    else none

/-! ## Reading and writing back -/

/-- The path of a text, as the functions on the disk take it. -/
def onDisk (name : String) : IO.FS.DirEntry := ⟨name, ""⟩

/-- Puts a file into the tree, if it is there. -/
def readFile (tree : DiskStore) (p : Path) : IO DiskStore := do
  let tree := (DiskStore.makeDir p.parent tree).2
  try
    let content ← IO.FS.readBinFile p.text
    return tree.put (placeOf p) (some content.toList)
  catch _ => return tree

/-- Puts what is below a directory into the tree, if the directory is there. -/
partial def readDir (tree : DiskStore) (dir : Path) : IO DiskStore := do
  if ← (onDisk dir.text).path.isDir then
    let mut tree := (DiskStore.makeDir dir tree).2
    for entry in ← (onDisk dir.text).path.readDir do
      let p := dir.join entry.fileName
      tree ← if ← entry.path.isDir then readDir tree p else readFile tree p
    return tree
  else return tree

/-- Makes the disk agree with the tree after a run, where it was another one before. -/
def writeBack (roots : List Path) (before after : DiskStore) : IO Unit := do
  for (place, _) in before.entries do
    if (after.at? place).isNone then
      if let some name := nameOf? roots place then IO.FS.removeFile name
  for (place, entry) in after.entries do
    if before.at? place ≠ some entry then
      if let some name := nameOf? roots place then
        match entry with
        | some content => IO.FS.writeBinFile name ⟨content.toArray⟩
        | none => IO.FS.createDirAll name

/-! ## The run -/

def now : IO TimeStamp := do
  let t ← Std.Time.PlainDateTime.now
  return ⟨t.year.toInt, t.month.toNat, t.day.toNat, t.hour.toNat, t.minute.toNat, t.second.toNat⟩

/-- The helper program of every run. -/
def helper (o : Options) : Helper Unit :=
  fun _ s => (.notStarted (o.compilerPath.text ++ ": processes cannot be started"), s)

/-- Carries out a command on the disk. -/
def perform (o : Options) (c : Command) : IO Output := do
  let (dirs, files) := reach o c
  let tree ← files.foldlM readFile (← dirs.foldlM readDir .empty)
  let t ← now
  let (output, after, _) :=
    CommandLine.perform DiskStore.fileSystem (helper o) ⟨fun _ => t, 0⟩ o c tree ()
  writeBack (dirs ++ files) tree after
  return output

def respond (args : List String) : IO Output :=
  match Request.ofArgs args with
  | .run o c => perform o c
  | request => return request.reply

end PluginForge.Program

def main (args : List String) : IO UInt32 := do
  let output ← PluginForge.Program.respond args
  for line in output.stdout do
    IO.println line
  for line in output.stderr do
    IO.eprintln line
  return .ofNat output.exit
