/-
A file system in memory. Files are kept under normalized names, sorted by them. A directory is there
because it was made or because something lies below it; a file may lie below another file.
-/
import PluginForge.Store.FileSystem

namespace PluginForge

structure MemoryStore where
  files : List (String × Bytes)
  dirs : List String
deriving DecidableEq, Repr

namespace MemoryStore

def empty : MemoryStore := ⟨[], []⟩

/-! ## Names -/

/-- The name a path is kept under: `/` between all parts, and none at the end. -/
def normalize (p : Path) : String :=
  match p.text.toList.map fun c => if c = '\\' then '/' else c with
  | [] => ""
  | [c] => .ofList [c]
  | s => .ofList (Chars.trimEndOf (· == '/') s)

/-- What the names below a directory start with. -/
def below (dir : String) : List Char :=
  if dir.toList.getLast? = some '/' then dir.toList else dir.toList ++ ['/']

/-! ## Files in the order of their names -/

def find? (name : String) (files : List (String × Bytes)) : Option Bytes :=
  (files.find? fun f => f.1 = name).map (·.2)

def insert (name : String) (content : Bytes) : List (String × Bytes) → List (String × Bytes)
  | [] => [(name, content)]
  | (n, c) :: rest =>
    if name = n then (name, content) :: rest
    else if name < n then (name, content) :: (n, c) :: rest
    else (n, c) :: insert name content rest

def erase (name : String) (files : List (String × Bytes)) : List (String × Bytes) :=
  files.filter fun f => f.1 ≠ name

/-! ## Operations -/

def contains (m : MemoryStore) (name : String) : Bool :=
  m.files.any fun f => f.1 = name

def isDirName (m : MemoryStore) (name : String) : Bool :=
  name ∈ m.dirs ||
    m.files.any (fun f => (below name).isPrefixOf f.1.toList) ||
    m.dirs.any (fun d => (below name).isPrefixOf d.toList)

def isFile (p : Path) (m : MemoryStore) : Bool :=
  m.contains (normalize p)

def isDir (p : Path) (m : MemoryStore) : Bool :=
  m.isDirName (normalize p)

def read (p : Path) (m : MemoryStore) : Except StoreError Bytes :=
  match find? (normalize p) m.files with
  | some content => .ok content
  | none => .error (.notFound (normalize p))

def size (p : Path) (m : MemoryStore) : Except StoreError Nat :=
  (m.read p).map List.length

def write (p : Path) (content : Bytes) (m : MemoryStore) : Except StoreError Unit × MemoryStore :=
  if normalize p ∈ m.dirs then (.error (.invalidPath (normalize p) "is a directory"), m)
  else (.ok (), { m with files := insert (normalize p) content m.files })

def remove (p : Path) (m : MemoryStore) : Except StoreError Unit × MemoryStore :=
  if m.contains (normalize p) then (.ok (), { m with files := erase (normalize p) m.files })
  else (.error (.notFound (normalize p)), m)

def makeDir (p : Path) (m : MemoryStore) : Except StoreError Unit × MemoryStore :=
  if m.contains (normalize p) then (.error (.invalidPath (normalize p) "is a file"), m)
  else if normalize p ∈ m.dirs then (.ok (), m)
  else (.ok (), { m with dirs := normalize p :: m.dirs })

/-- Whether a file is listed under what the names below a directory start with. -/
def isListed (start : List Char) (extension : String) (recursive : Bool) (name : String) : Bool :=
  match Chars.after? start name.toList with
  | some rest => (recursive || ! rest.contains '/') && (Path.mk name).hasExtension extension
  | none => false

def list (dir : Path) (extension : String) (recursive : Bool) (m : MemoryStore) :
    Except StoreError (List Path) :=
  let name := normalize dir
  if m.isDirName name then
    .ok (((m.files.map (·.1)).filter (isListed (below name) extension recursive)).map .mk)
  else .error (.notFound name)

def fileSystem : FileSystem MemoryStore where
  read
  size
  list
  isFile
  isDir
  write
  remove
  makeDir

end MemoryStore
end PluginForge
