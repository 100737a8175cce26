/-
File systems as the engine uses them: a record of operations on the states of some file system.
Looking does not change a state; a change that fails may still leave another state behind.
-/
import PluginForge.Path

namespace PluginForge

abbrev Bytes := List UInt8

inductive StoreError where
  | notFound (path : String)
  | permissionDenied (path : String)
  | invalidPath (path reason : String)
  | io (detail : String)
  | custom (detail : String)
deriving DecidableEq, Repr

def StoreError.message : StoreError → String
  | .notFound path => "Path not found: " ++ path
  | .permissionDenied path => "Permission denied: " ++ path
  | .invalidPath path reason => "Invalid path '" ++ path ++ "': " ++ reason
  | .io detail => "IO error: " ++ detail
  | .custom detail => detail

/-- A file system with states `φ`. -/
structure FileSystem (φ : Type) where
  read : Path → φ → Except StoreError Bytes
  /-- The size of a file in bytes. -/
  size : Path → φ → Except StoreError Nat
  /-- The files of a directory that have an extension, sorted; with those of its subdirectories if
  that is asked for. The empty extension is that of every file. -/
  list : (dir : Path) → (extension : String) → (recursive : Bool) → φ →
    Except StoreError (List Path)
  isFile : Path → φ → Bool
  isDir : Path → φ → Bool
  /-- Creates or replaces a file. -/
  write : Path → Bytes → φ → Except StoreError Unit × φ
  remove : Path → φ → Except StoreError Unit × φ
  /-- Creates a directory and those above it. -/
  makeDir : Path → φ → Except StoreError Unit × φ

namespace FileSystem

def «exists» {φ : Type} (fs : FileSystem φ) (p : Path) (s : φ) : Bool :=
  fs.isFile p s || fs.isDir p s

/-- Removes files one by one, past those that cannot be removed; returns how many were removed. -/
def removeAll {φ : Type} (fs : FileSystem φ) : List Path → φ → Nat × φ
  | [], s => (0, s)
  | p :: rest, s =>
    match fs.remove p s with
    | (.ok (), s) =>
      let (n, s) := removeAll fs rest s
      (n + 1, s)
    | (.error _, s) => removeAll fs rest s

/-- Removes the files that lie directly in a directory and have an extension; returns how many were
removed. A directory that cannot be listed is left alone. -/
def removeListed {φ : Type} (fs : FileSystem φ) (dir : Path) (extension : String) (s : φ) :
    Nat × φ :=
  match fs.list dir extension false s with
  | .ok paths => fs.removeAll paths s
  | .error _ => (0, s)

end FileSystem
end PluginForge
