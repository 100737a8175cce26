/-
The libraries that sources are compiled against. Candidates are the user's assemblies, then the
host's libraries, then the platform's; those that can be read and look like loadable modules are
taken, each place once.
-/
import PluginForge.Settings.Basic
import PluginForge.Settings.Workspace
import PluginForge.Store.FileSystem

namespace PluginForge

/-! ## Loadable modules -/

/-- The number that four bytes stand for, the lowest first. -/
def littleEndian (bytes : Bytes) : Nat :=
  bytes.foldr (fun b n => b.toNat + 256 * n) 0

/-- Where a module says at which offset its signature stands. -/
def signaturePointer : Nat := 0x3C

/-- Whether bytes look like a loadable module: they start with `MZ`, and the signature `PE` stands at
the offset that the header gives. -/
def isLoadable (bytes : Bytes) : Bool :=
  let offset := (bytes.drop signaturePointer).take 4
  offset.length == 4 && bytes.take 2 == [0x4D, 0x5A] &&
    (bytes.drop (littleEndian offset)).take 4 == [0x50, 0x45, 0, 0]

/-! ## Resolution -/

inductive ReferenceError where
  | empty
deriving DecidableEq, Repr

def ReferenceError.message : ReferenceError → String
  | .empty => "no usable reference assemblies were found"

/-- The extension of libraries. -/
def libraryExtension : String := "dll"

/-- Where libraries are looked for. -/
structure ReferenceRoots where
  assemblies : Path
  host : Option Path
  runtime : Option Path
deriving DecidableEq, Repr

/-- The roots of a workspace, with the directories of the host and the runtime where they are
known. -/
def ReferenceRoots.ofWorkspace (w : Workspace) (host runtime : Option Path) : ReferenceRoots :=
  ⟨w.assembliesDir, host, runtime⟩

namespace Reference

variable {φ : Type} (fs : FileSystem φ)

/-- Whether a file can be read and looks like a loadable module. -/
def isUsable (files : φ) (p : Path) : Bool :=
  match fs.read p files with
  | .ok bytes => isLoadable bytes
  | .error _ => false

/-- The user's assemblies in the order of the listing. The directory is made if it is not there; one
that cannot be listed has none. -/
def userAssemblies (dir : Path) (files : φ) : List Path × φ :=
  if fs.isDir dir files then
    match fs.list dir libraryExtension true files with
    | .ok paths => (paths, files)
    | .error _ => ([], files)
  else ([], (fs.makeDir dir files).2)

/-- The places of the host's libraries: the main one first. -/
def hostPaths (settings : Settings) (roots : ReferenceRoots) : List Path :=
  match roots.host with
  | some host => (settings.hostInterfaceLibrary :: settings.hostRuntimeBinaries).map host.join
  | none => []

/-- The places of the platform's libraries. -/
def runtimePaths (settings : Settings) (roots : ReferenceRoots) : List Path :=
  match roots.runtime with
  | some runtime => settings.systemAssemblyNames.map runtime.join
  | none => []

/-- Adds a path at the end, unless the place is there already. -/
def addPath (paths : List Path) (p : Path) : List Path :=
  if paths.any (Path.same p) then paths else paths ++ [p]

/-- The candidates that are usable, each place once. -/
def select (files : φ) (candidates : List Path) : List Path :=
  (candidates.filter (isUsable fs files)).foldl addPath []

/-- The reference set: the user's assemblies, then the libraries of the host and of the platform that
are there. -/
def resolve (settings : Settings) (roots : ReferenceRoots) (files : φ) :
    Except ReferenceError (List Path) × φ :=
  let (users, files) := userAssemblies fs roots.assemblies files
  let present := (hostPaths settings roots ++ runtimePaths settings roots).filter
    fun p => fs.isFile p files
  match select fs files (users ++ present) with
  | [] => (.error .empty, files)
  | paths => (.ok paths, files)

/-- A set with further paths at its end. -/
def withExtra (paths extra : List Path) : List Path :=
  extra.foldl addPath paths

/-- Those of some paths that are there and usable. -/
def loadablePaths (files : φ) (paths : List Path) : List Path :=
  paths.filter fun p => fs.isFile p files && isUsable fs files p

/-! ## The set that is kept during a cycle -/

/-- The set kept, or else the resolved one, which is then kept. -/
def getOrResolve (settings : Settings) (roots : ReferenceRoots) (kept : Option (List Path))
    (files : φ) : Except ReferenceError (List Path) × Option (List Path) × φ :=
  match kept with
  | some paths => (.ok paths, some paths, files)
  | none =>
    match resolve fs settings roots files with
    | (.ok paths, files) => (.ok paths, some paths, files)
    | (.error e, files) => (.error e, none, files)

end Reference
end PluginForge
