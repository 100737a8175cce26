/-
A file system with a tree of directories. A path is walked step by step, so every step but the last
must be a directory that is there, and a file can be written only into a directory that is there.
Names and paths have bounds to their size.
-/
import PluginForge.Store.FileSystem

namespace PluginForge

/-- A tree of directories: the places below its root, each a directory (`none`) or a file. The place
of an entry is given by the names on the way to it. -/
structure DiskStore where
  entries : List (List String × Option Bytes)
deriving DecidableEq, Repr

namespace DiskStore

def empty : DiskStore := ⟨[]⟩

/-- What is at a place; the root is a directory. -/
def at? (d : DiskStore) : List String → Option (Option Bytes)
  | [] => some none
  | place => (d.entries.find? fun e => e.1 = place).map (·.2)

/-- The tree with `entry` at a place. -/
def put (d : DiskStore) (place : List String) (entry : Option Bytes) : DiskStore :=
  ⟨d.entries.filter (fun e => e.1 ≠ place) ++ [(place, entry)]⟩

def erase (d : DiskStore) (place : List String) : DiskStore :=
  ⟨d.entries.filter fun e => e.1 ≠ place⟩

/-! ## Errors -/

/-- The error of a path on whose way there is a file. -/
def blockedError : StoreError :=
  .io "Not a directory (os error 20)"

/-- The error of an operation on files that met a directory. -/
def dirError : StoreError :=
  .io "Is a directory (os error 21)"

/-- The error of a directory that is to be made where a file is. -/
def occupiedError : StoreError :=
  .io "File exists (os error 17)"

/-- The error of a name or a path that is too long. -/
def longNameError : StoreError :=
  .io "File name too long (os error 36)"

/-- The error of a path with a character that ends every path. -/
def nulError : StoreError :=
  .io "file name contained an unexpected NUL byte"

/-! ## Walking a path -/

/-- The most bytes of a name. -/
def maxNameSize : Nat := 255

/-- The most bytes of a path. -/
def maxPathSize : Nat := 4095

/-- The error of a path that is refused before it is walked. -/
def refusal? (p : Path) : Option StoreError :=
  if p.text.toList.contains '\x00' then some nulError
  else if p.text.utf8ByteSize > maxPathSize then some longNameError
  else none

/-- Where a walk ends. -/
inductive Spot where
  | file (place : List String) (content : Bytes)
  | dir (place : List String)
  /-- Nothing is at this place, but the directory it would be in is there. -/
  | vacant (place : List String)
  /-- A directory on the way is not there. -/
  | missing
  /-- The path cannot be walked, whatever is to be done at its end. -/
  | refused (e : StoreError)
deriving Repr

/-- Walks the steps of a path from the directory `here`. -/
def walk (d : DiskStore) (here : List String) : List Path.Component → Spot
  | [] => .dir here
  | .root :: rest => walk d [] rest
  | .here :: rest => walk d here rest
  | .up :: rest => walk d here.dropLast rest
  | .name n :: rest =>
    let name := String.ofList n
    let place := here ++ [name]
    if name.utf8ByteSize > maxNameSize then .refused longNameError
    else match d.at? place, rest with
      | some none, _ => walk d place rest
      | some (some content), [] => .file place content
      | some (some _), _ :: _ => .refused blockedError
      | none, [] => .vacant place
      | none, _ :: _ => .missing

/-- Whether a path is written in such a way that only a directory can be meant. -/
def asksForDir (p : Path) : Bool :=
  match p.text.toList.reverse with
  | '/' :: _ => true
  | '.' :: '/' :: _ => true
  | _ => false

/-- Whether the last step of a path is written as a `.`. -/
def endsInDot (p : Path) : Bool :=
  ((Path.segments p.text.toList).reverse.dropWhile List.isEmpty).head? = some ['.']

/-- Where a path leads. -/
def spot (d : DiskStore) (p : Path) : Spot :=
  if p.text = "" then .missing
  else match refusal? p, walk d [] p.components with
    | some e, _ => .refused e
    | none, .file place content =>
      if asksForDir p then .refused blockedError else .file place content
    | none, s => s

/-! ## Operations -/

/-- The size that a directory has. -/
def dirSize : Nat := 4096

def isFile (p : Path) (d : DiskStore) : Bool :=
  match d.spot p with
  | .file .. => true
  | _ => false

def isDir (p : Path) (d : DiskStore) : Bool :=
  match d.spot p with
  | .dir _ => true
  | _ => false

def read (p : Path) (d : DiskStore) : Except StoreError Bytes :=
  match d.spot p with
  | .file _ content => .ok content
  | .dir _ => .error dirError
  | .vacant _ | .missing => .error (.notFound p.text)
  | .refused e => .error e

def size (p : Path) (d : DiskStore) : Except StoreError Nat :=
  match d.spot p with
  | .file _ content => .ok content.length
  | .dir _ => .ok dirSize
  | .vacant _ | .missing => .error (.notFound p.text)
  | .refused e => .error e

def write (p : Path) (content : Bytes) (d : DiskStore) : Except StoreError Unit × DiskStore :=
  match d.spot p with
  | .file place _ => (.ok (), d.put place (some content))
  | .vacant place =>
    if endsInDot p then (.error (.notFound p.text), d)
    else if asksForDir p then (.error dirError, d)
    else (.ok (), d.put place (some content))
  | .dir _ => (.error dirError, d)
  | .missing => (.error (.notFound p.text), d)
  | .refused e => (.error e, d)

def remove (p : Path) (d : DiskStore) : Except StoreError Unit × DiskStore :=
  match d.spot p with
  | .file place _ => (.ok (), d.erase place)
  | .dir _ => (.error dirError, d)
  | .vacant _ | .missing => (.error (.notFound p.text), d)
  | .refused e => (.error e, d)

/-- Walks the steps of a path and makes the directories that are not there. -/
def makeWalk (d : DiskStore) (here : List String) :
    List Path.Component → Except StoreError Unit × DiskStore
  | [] => (.ok (), d)
  | .root :: rest => makeWalk d [] rest
  | .here :: rest => makeWalk d here rest
  | .up :: rest => makeWalk d here.dropLast rest
  | .name n :: rest =>
    let name := String.ofList n
    let place := here ++ [name]
    if name.utf8ByteSize > maxNameSize then (.error longNameError, d)
    else match d.at? place with
      | some none => makeWalk d place rest
      | some (some _) => (.error (if rest.isEmpty then occupiedError else blockedError), d)
      | none => makeWalk (d.put place none) place rest

/-- Makes a directory and those above it. A path that ends in a `.` speaks of a directory that is
there already, so only the ones above that are made. -/
def makeDir (p : Path) (d : DiskStore) : Except StoreError Unit × DiskStore :=
  match refusal? p with
  | some e => (.error e, d)
  | none =>
    if endsInDot p then
      match makeWalk d [] p.components.dropLast with
      | (.error e, d) => (.error e, d)
      | (.ok (), d) =>
        match d.spot p with
        | .dir _ => (.ok (), d)
        | .file .. => (.error blockedError, d)
        | .vacant _ | .missing => (.error (.notFound p.text), d)
        | .refused e => (.error e, d)
    else makeWalk d [] p.components

/-- The files below a place, as paths below `dir`. -/
def filesBelow (d : DiskStore) (dir : Path) (place : List String) (recursive : Bool) : List Path :=
  d.entries.filterMap fun (at_, entry) =>
    match entry with
    | none => none
    | some _ =>
      if place.isPrefixOf at_ && (recursive || at_.length == place.length + 1) then
        some ((at_.drop place.length).foldl Path.join dir)
      else none

def list (dir : Path) (extension : String) (recursive : Bool) (d : DiskStore) :
    Except StoreError (List Path) :=
  match d.spot dir with
  | .dir place =>
    .ok (((d.filesBelow dir place recursive).filter (·.hasExtension extension)).mergeSort
      fun p q => (p.compare q).isLE)
  | .file .. => .error blockedError
  | .vacant _ | .missing => .error (.notFound dir.text)
  | .refused e => .error e

def fileSystem : FileSystem DiskStore where
  read
  size
  list
  isFile
  isDir
  write
  remove
  makeDir

end DiskStore
end PluginForge
