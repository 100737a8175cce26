/-
What the parts of a build do to a file system, call by call, whatever file system it is and whichever
of its calls fail. Taking in sources and looking for references make directories alone (`MakesDirs`),
clearing old artifacts and logs writes no file (`Tidies`); the artifacts of a group are written in order
up to the first that cannot be.
-/
import Mathlib.Control.Monad.Basic
import PluginForge.Build.Artifact
import PluginForge.Build.FailureLog
import PluginForge.Intake.Ingest
import PluginForge.Proofs.References

namespace PluginForge

/-- A call that may change a file system, with its result. -/
inductive StoreChange where
  | write (p : Path) (content : Bytes) (result : Except StoreError Unit)
  | remove (p : Path) (result : Except StoreError Unit)
  | makeDir (p : Path) (result : Except StoreError Unit)
deriving DecidableEq

namespace StoreChange

/-- An artifact, or another file, that is written. -/
def written (a : Path × Bytes) : StoreChange :=
  .write a.1 a.2 (.ok ())

def isWrite : StoreChange → Bool
  | .write .. => true
  | .remove .. | .makeDir .. => false

def isRemove : StoreChange → Bool
  | .remove .. => true
  | .write .. | .makeDir .. => false

/-- The file that a call writes or removes. -/
def target? : StoreChange → Option Path
  | .write p _ _ | .remove p _ => some p
  | .makeDir .. => none

end StoreChange

variable {φ : Type} {fs : FileSystem φ}

namespace FileSystem

/-- A call on a file system, between the state before and the state after it. -/
inductive Does (fs : FileSystem φ) : φ → StoreChange → φ → Prop
  | write {p content s r s'} (h : fs.write p content s = (r, s')) :
      Does fs s (.write p content r) s'
  | remove {p s r s'} (h : fs.remove p s = (r, s')) : Does fs s (.remove p r) s'
  | makeDir {p s r s'} (h : fs.makeDir p s = (r, s')) : Does fs s (.makeDir p r) s'

/-- Calls on a file system, one after the other. -/
inductive Did (fs : FileSystem φ) : φ → List StoreChange → φ → Prop
  | nil {s} : Did fs s [] s
  | cons {s s' s'' c changes} (first : fs.Does s c s') (rest : Did fs s' changes s'') :
      Did fs s (c :: changes) s''

theorem Did.append {s s' s'' : φ} {changes more : List StoreChange} (h : fs.Did s changes s')
    (h' : fs.Did s' more s'') : fs.Did s (changes ++ more) s'' := by
  induction h with
  | nil => exact h'
  | cons first _ ih => exact .cons first (ih h')

theorem Does.did {s s' : φ} {c : StoreChange} (h : fs.Does s c s') : fs.Did s [c] s' :=
  .cons h .nil

/-- The state of a file system with the calls so far that may have changed it, in order. -/
structure Recorded (φ : Type) where
  state : φ
  changes : List StoreChange

/-- Makes a call and records it with its result. -/
def Recorded.step (note : Except StoreError Unit → StoreChange)
    (f : φ → Except StoreError Unit × φ) (s : Recorded φ) : Except StoreError Unit × Recorded φ :=
  ((f s.state).1, ⟨(f s.state).2, s.changes ++ [note (f s.state).1]⟩)

/-- The file system with a record of the calls that may change it. -/
def recorded (fs : FileSystem φ) : FileSystem (Recorded φ) where
  read := fun p s => fs.read p s.state
  size := fun p s => fs.size p s.state
  list := fun dir extension recursive s => fs.list dir extension recursive s.state
  isFile := fun p s => fs.isFile p s.state
  isDir := fun p s => fs.isDir p s.state
  write := fun p content => Recorded.step (.write p content) (fs.write p content)
  remove := fun p => Recorded.step (.remove p) (fs.remove p)
  makeDir := fun p => Recorded.step (.makeDir p) (fs.makeDir p)

theorem Does.recorded {s s' : Recorded φ} {c : StoreChange} (h : fs.recorded.Does s c s') :
    s'.changes = s.changes ++ [c] := by
  cases h with
  | write h | remove h | makeDir h =>
    cases h
    rfl

/-- On a file system with a record there is no choice in what was done: it is what the record has got
longer by. -/
theorem Did.recorded {s s' : Recorded φ} {changes : List StoreChange}
    (h : fs.recorded.Did s changes s') : s'.changes = s.changes ++ changes := by
  induction h with
  | nil => rw [List.append_nil]
  | cons first _ ih => rw [ih, first.recorded, List.append_assoc, List.singleton_append]

/-- From one state to the other by making directories alone. -/
def MakesDirs (fs : FileSystem φ) (s s' : φ) : Prop :=
  ∃ changes, fs.Did s changes s' ∧ ∀ c ∈ changes, c.target? = none

namespace MakesDirs

variable {s s' s'' : φ}

theorem refl : fs.MakesDirs s s :=
  ⟨[], .nil, fun _ h => absurd h List.not_mem_nil⟩

theorem trans (h : fs.MakesDirs s s') (h' : fs.MakesDirs s' s'') : fs.MakesDirs s s'' := by
  obtain ⟨changes, did, first⟩ := h
  obtain ⟨more, did', second⟩ := h'
  exact ⟨changes ++ more, did.append did', List.forall_mem_append.2 ⟨first, second⟩⟩

theorem makeDir {p : Path} {r : Except StoreError Unit} (h : fs.makeDir p s = (r, s')) :
    fs.MakesDirs s s' :=
  ⟨_, (Does.makeDir h).did, List.forall_mem_singleton.2 rfl⟩

end MakesDirs

/-- From one state to the other without a file being written. -/
def Tidies (fs : FileSystem φ) (s s' : φ) : Prop :=
  ∃ changes, fs.Did s changes s' ∧ ∀ c ∈ changes, c.isWrite = false

namespace Tidies

variable {s s' s'' : φ} {p : Path} {r : Except StoreError Unit}

theorem refl : fs.Tidies s s :=
  ⟨[], .nil, fun _ h => absurd h List.not_mem_nil⟩

theorem trans (h : fs.Tidies s s') (h' : fs.Tidies s' s'') : fs.Tidies s s'' := by
  obtain ⟨changes, did, tidy⟩ := h
  obtain ⟨more, did', tidy'⟩ := h'
  exact ⟨changes ++ more, did.append did', List.forall_mem_append.2 ⟨tidy, tidy'⟩⟩

theorem of_makesDirs (h : fs.MakesDirs s s') : fs.Tidies s s' := by
  obtain ⟨changes, did, none⟩ := h
  refine ⟨changes, did, fun c hc => ?_⟩
  cases c with
  | write => cases none _ hc
  | remove | makeDir => rfl

theorem remove (h : fs.remove p s = (r, s')) : fs.Tidies s s' :=
  ⟨_, (Does.remove h).did, List.forall_mem_singleton.2 rfl⟩

theorem removeAll (paths : List Path) : fs.Tidies s (fs.removeAll paths s).2 := by
  induction paths generalizing s with
  | nil => exact .refl
  | cons p rest ih =>
    unfold FileSystem.removeAll
    cases hr : fs.remove p s with | mk r s' =>
    cases r with
    | ok u => exact (remove hr).trans ih
    | error err => exact (remove hr).trans ih

theorem removeListed (dir : Path) (extension : String) :
    fs.Tidies s (fs.removeListed dir extension s).2 := by
  unfold FileSystem.removeListed
  cases fs.list dir extension false s with
  | ok paths => exact removeAll paths
  | error err => exact refl

end Tidies
end FileSystem

open FileSystem

/-! ## What only makes directories -/

theorem Intake.discover_makesDirs (settings : Settings) (root : Path) (files : φ) :
    fs.MakesDirs files (discover fs settings root files).2 := by
  unfold discover
  split
  · repeat' split
    all_goals exact .refl
  · cases hm : fs.makeDir root files with | mk r files' =>
    cases r with
    | ok u => exact .makeDir hm
    | error err => exact .makeDir hm

theorem Intake.ingest_makesDirs {σ ρ : Type} (service : CompileService σ ρ) (settings : Settings)
    (root : Path) (files : φ) (s : σ) :
    fs.MakesDirs files (ingest fs service settings root files s).2.1 := by
  have made : fs.MakesDirs files (discover fs settings root files).2 :=
    discover_makesDirs settings root files
  unfold ingest
  generalize discover fs settings root files = r at made ⊢
  obtain ⟨r, files'⟩ := r
  cases r with
  | error err => exact made
  | ok paths => exact made

namespace Reference

variable (settings : Settings) (roots : ReferenceRoots)

theorem candidates_makesDirs (files : φ) :
    fs.MakesDirs files (candidates fs settings roots files).2 := by
  change fs.MakesDirs files (userAssemblies fs roots.assemblies files).2
  unfold userAssemblies
  split
  · split <;> exact .refl
  · exact .makeDir rfl

theorem getOrResolve_makesDirs (kept : Option (List Path)) (files : φ) :
    fs.MakesDirs files (getOrResolve fs settings roots kept files).2.2 := by
  have made : fs.MakesDirs files (candidates fs settings roots files).2 :=
    candidates_makesDirs settings roots files
  cases kept with
  | some paths => exact .refl
  | none =>
    rw [getOrResolve, resolve_eq]
    cases select fs (candidates fs settings roots files).2
      (candidates fs settings roots files).1 <;> exact made

end Reference

/-! ## What writes no file -/

theorem Artifact.clean_tidies (dir : Path) (files : φ) : fs.Tidies files (clean fs dir files) := by
  unfold clean
  split
  · exact (Tidies.removeListed dir libraryExtension).trans
      (Tidies.removeListed dir symbolsExtension)
  · exact .of_makesDirs (.makeDir rfl)

theorem FailureLog.clear_tidies (dir : Path) (files : φ) : fs.Tidies files (clear fs dir files).2 := by
  unfold clear
  split
  · exact .removeListed dir logExtension
  · exact .refl

/-! ## What is written -/

namespace Artifact

/-- Artifacts are written in order, up to the first that cannot be. -/
theorem writeAll_did {artifacts : List (Path × Bytes)} {files files' : φ}
    {r : Except StoreError Unit} (h : writeAll fs artifacts files = (r, files')) :
    match r with
    | .ok () => fs.Did files (artifacts.map StoreChange.written) files'
    | .error err => ∃ xs a ys, artifacts = xs ++ a :: ys ∧
        fs.Did files (xs.map StoreChange.written ++ [.write a.1 a.2 (.error err)]) files' := by
  induction artifacts generalizing files with
  | nil =>
    cases h
    exact .nil
  | cons a rest ih =>
    obtain ⟨p, bytes⟩ := a
    unfold writeAll at h
    cases hw : fs.write p bytes files with | mk r₁ files₁ =>
    rw [hw] at h
    cases r₁ with
    | error err =>
      cases h
      exact ⟨[], (p, bytes), rest, rfl, (Does.write hw).did⟩
    | ok u =>
      have ih := ih h
      cases r with
      | ok u => exact .cons (.write hw) ih
      | error err =>
        obtain ⟨xs, a, ys, hs, did⟩ := ih
        exact ⟨(p, bytes) :: xs, a, ys, congrArg _ hs, .cons (.write hw) did⟩

theorem write_did {dir : Path} {key : String} {output : EmitOutput} {files files' : φ}
    {r : Except StoreError (List Path)} (h : write fs dir key output files = (r, files')) :
    match r with
    | .ok paths => paths = (ofOutput dir key output).map Prod.fst ∧
        fs.Did files (.makeDir dir (.ok ()) :: (ofOutput dir key output).map StoreChange.written)
          files'
    | .error err => fs.Did files [.makeDir dir (.error err)] files' ∨
        ∃ xs a ys, ofOutput dir key output = xs ++ a :: ys ∧
          fs.Did files (.makeDir dir (.ok ()) ::
            (xs.map StoreChange.written ++ [.write a.1 a.2 (.error err)])) files' := by
  unfold write at h
  cases hm : fs.makeDir dir files with | mk r₁ files₁ =>
  rw [hm] at h
  cases r₁ with
  | error err =>
    cases h
    exact .inl (Does.makeDir hm).did
  | ok u =>
    dsimp only at h
    cases hw : writeAll fs (ofOutput dir key output) files₁ with | mk r₂ files₂ =>
    have did := writeAll_did hw
    rw [hw] at h
    cases r₂ with
    | error err =>
      cases h
      obtain ⟨xs, a, ys, hs, did⟩ := did
      exact .inr ⟨xs, a, ys, hs, .cons (.makeDir hm) did⟩
    | ok u =>
      cases h
      exact ⟨rfl, .cons (.makeDir hm) did⟩

end Artifact

/-- A call that removes nothing and writes no other file than `p`. -/
def StoreChange.OnlyWrites (p : Path) (c : StoreChange) : Prop :=
  c.isRemove = false ∧ ∀ q content r, c = .write q content r → q = p

theorem StoreChange.onlyWrites_write (p : Path) (content : Bytes) (r : Except StoreError Unit) :
    (StoreChange.write p content r).OnlyWrites p := by
  refine ⟨rfl, fun q content r h => ?_⟩
  cases h
  rfl

theorem StoreChange.onlyWrites_makeDir (p dir : Path) (r : Except StoreError Unit) :
    (StoreChange.makeDir dir r).OnlyWrites p := by
  refine ⟨rfl, fun q content r h => ?_⟩
  cases h

/-- For the log of a group, nothing is written but that log. -/
theorem FailureLog.write_did (style : Report.LogStyle) (dir : Path) (key name : String)
    (ds : List Diagnostic) (t : TimeStamp) (files : φ) :
    ∃ changes, fs.Did files changes (write fs style dir key name ds t files).2 ∧
      ∀ c ∈ changes, c.OnlyWrites (dir.join (logFileName key t)) := by
  have made := StoreChange.onlyWrites_makeDir (dir.join (logFileName key t)) dir
  have wrote := StoreChange.onlyWrites_write (dir.join (logFileName key t))
    (Encoding.toUtf8 (Report.renderLog style name ds t))
  unfold write
  cases hm : fs.makeDir dir files with | mk r files₁ =>
  cases r with
  | error err => exact ⟨_, (Does.makeDir hm).did, List.forall_mem_singleton.2 (made _)⟩
  | ok u =>
    dsimp only
    cases hw : fs.write (dir.join (logFileName key t))
      (Encoding.toUtf8 (Report.renderLog style name ds t)) files₁ with | mk r files₂ =>
    have did := (Does.makeDir hm).did.append (Does.write hw).did
    have only := List.forall_mem_cons.2 ⟨made (.ok u), List.forall_mem_singleton.2 (wrote r)⟩
    cases r with
    | ok u => exact ⟨_, did, only⟩
    | error err => exact ⟨_, did, only⟩

end PluginForge
