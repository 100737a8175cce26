/-
A file system some of whose calls fail: each fault names a call and a path, and such a call is
refused before it has any effect.
-/
import PluginForge.Store.FileSystem

namespace PluginForge

/-- The calls of a file system that can fail. -/
inductive StoreCall where
  | read
  | size
  | list
  | write
  | remove
  | makeDir
deriving DecidableEq, Repr

/-- A call that fails on a path: for want of permission, or with a message of its own. -/
structure Fault where
  call : StoreCall
  path : Path
  detail : Option String
deriving Repr

namespace Fault

def error (f : Fault) (p : Path) : StoreError :=
  match f.detail with
  | some detail => .io detail
  | none => .permissionDenied p.text

/-- How a call on a path fails, if it does. -/
def find? (faults : List Fault) (call : StoreCall) (p : Path) : Option StoreError :=
  (faults.find? fun f => f.call = call && f.path.same p).map (·.error p)

/-- The answer of a call that looks, unless it fails. -/
def guardLook {α : Type} (faults : List Fault) (call : StoreCall) (p : Path)
    (answer : Except StoreError α) : Except StoreError α :=
  match find? faults call p with
  | some e => .error e
  | none => answer

/-- The effect of a call that changes something, unless it fails. -/
def guardChange {φ : Type} (faults : List Fault) (call : StoreCall) (p : Path)
    (change : φ → Except StoreError Unit × φ) (s : φ) : Except StoreError Unit × φ :=
  match find? faults call p with
  | some e => (.error e, s)
  | none => change s

end Fault

/-- The file system `fs` with faults. -/
def FileSystem.withFaults {φ : Type} (fs : FileSystem φ) (faults : List Fault) : FileSystem φ where
  read := fun p s => Fault.guardLook faults .read p (fs.read p s)
  size := fun p s => Fault.guardLook faults .size p (fs.size p s)
  list := fun p ext deep s => Fault.guardLook faults .list p (fs.list p ext deep s)
  isFile := fs.isFile
  isDir := fs.isDir
  write := fun p content => Fault.guardChange faults .write p (fs.write p content)
  remove := fun p => Fault.guardChange faults .remove p (fs.remove p)
  makeDir := fun p => Fault.guardChange faults .makeDir p (fs.makeDir p)

end PluginForge
