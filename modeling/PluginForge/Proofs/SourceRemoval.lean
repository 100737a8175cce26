/-
Removing the sources of a workspace that lies in memory, whichever of its files cannot be removed.
The removal goes on past those, so that they are just what is left below the source directory, and
the number returned is that of the others. Files elsewhere are left alone, in particular those in
directories whose names only begin like that of the source directory.
-/
import PluginForge.Engine.Upkeep
import PluginForge.Proofs.Leftovers
import PluginForge.Proofs.MemoryListings
import PluginForge.Store.Faults

namespace PluginForge

variable {φ σ ρ : Type}

/-! ## Files that cannot be removed -/

namespace FileSystem

/-- The file system with files that cannot be removed: those for which `stuck` has an error. -/
def withStuck (fs : FileSystem φ) (stuck : Path → Option StoreError) : FileSystem φ :=
  { fs with remove := fun p s => match stuck p with
      | some err => (.error err, s)
      | none => fs.remove p s }

variable {fs : FileSystem φ}

/-- Faults of removals are files that cannot be removed. -/
theorem withFaults_eq_withStuck {faults : List Fault} (h : ∀ f ∈ faults, f.call = .remove) :
    fs.withFaults faults = fs.withStuck (Fault.find? faults .remove) := by
  have sound (call : StoreCall) (other : call ≠ .remove) (p : Path) :
      Fault.find? faults call p = none := by
    refine Option.map_eq_none_iff.2 (List.find?_eq_none.2 fun f hf => ?_)
    simp [h f hf, other.symm]
  have looks {α : Type} (call : StoreCall) (other : call ≠ .remove) (p : Path)
      (answer : Except StoreError α) : Fault.guardLook faults call p answer = answer := by
    rw [Fault.guardLook, sound call other]
  have changes (call : StoreCall) (other : call ≠ .remove) (p : Path)
      (change : φ → Except StoreError Unit × φ) :
      Fault.guardChange faults call p change = change := by
    funext s
    rw [Fault.guardChange, sound call other]
  unfold withFaults
  simp only [looks .read nofun, looks .size nofun, looks .list nofun, changes .write nofun,
    changes .makeDir nofun]
  rfl

/-- What can be removed is removed as if the rest were not asked for. -/
theorem removeAll_withStuck (stuck : Path → Option StoreError) (paths : List Path) (s : φ) :
    (fs.withStuck stuck).removeAll paths s =
      fs.removeAll (paths.filter fun p => (stuck p).isNone) s := by
  induction paths generalizing s with
  | nil => rfl
  | cons p rest ih =>
    conv_lhs => unfold removeAll
    cases hp : stuck p with
    | some err =>
      have refused : (fs.withStuck stuck).remove p s = (.error err, s) := by
        simp [withStuck, hp]
      rw [refused, List.filter_cons_of_neg (by simp [hp])]
      exact ih s
    | none =>
      have same : (fs.withStuck stuck).remove p s = fs.remove p s := by
        simp [withStuck, hp]
      rw [same, List.filter_cons_of_pos (by simp [hp])]
      conv_rhs => unfold removeAll
      simp only [ih]

end FileSystem

/-! ## The sources that are left -/

namespace MemoryStore

variable {m : MemoryStore}

/-- Of the files that a listing gives, just those that cannot be removed are left. -/
theorem removeAll_listed_withStuck (stuck : Path → Option StoreError) (dir : Path)
    (extension : String) (recursive : Bool) (reach : m.Reachable) :
    ∃ left, (fileSystem.withStuck stuck).removeAll (listed dir extension recursive m) m =
        (m.files.countP fun f => Asked dir extension recursive f.1 ∧ stuck ⟨f.1⟩ = none, left) ∧
      (∀ f, f ∈ left.files ↔
        f ∈ m.files ∧ (Asked dir extension recursive f.1 → stuck ⟨f.1⟩ ≠ none)) ∧
      left.dirs = m.dirs := by
  have mem := fun p => @mem_listed_iff dir extension recursive m reach.sorted p
  have there : ∀ p ∈ (listed dir extension recursive m).filter fun p => (stuck p).isNone,
      ∃ content, (p.text, content) ∈ m.files := fun p hp =>
    ((mem p).1 (List.mem_of_mem_filter hp)).1
  -- The paths to be removed are as many as the files that they are the names of.
  have number : ((listed dir extension recursive m).filter fun p => (stuck p).isNone).length =
      m.files.countP fun f => Asked dir extension recursive f.1 ∧ stuck ⟨f.1⟩ = none := by
    have picked (f : String × Bytes) :
        (isListed (below (normalize dir)) extension recursive f.1 && (stuck ⟨f.1⟩).isNone) =
          decide (Asked dir extension recursive f.1 ∧ stuck ⟨f.1⟩ = none) := by
      rw [Bool.eq_iff_iff, Bool.and_eq_true_iff, isListed_iff_asked, Option.isNone_iff_eq_none,
        decide_eq_true_iff]
    rw [listed, List.filter_map, List.length_map, List.filter_filter, List.filter_map,
      List.length_map, List.countP_eq_length_filter]
    simp only [Function.comp_def, ← picked, Bool.and_comm]
  rw [FileSystem.removeAll_withStuck,
    removeAll_stored reach.normal ((nodup_listed reach.sorted).filter _) there, number]
  refine ⟨_, rfl, fun f => ?_, rfl⟩
  rw [List.mem_filter, decide_eq_true_iff, List.mem_filter, mem, Option.isNone_iff_eq_none, not_and]
  exact and_congr_right fun stored =>
    ⟨fun h asked => h ⟨⟨_, stored⟩, asked⟩, fun h asked => h asked.2⟩

/-- A name that goes on from that of a directory without a separator is elsewhere. -/
theorem not_liesBelow_of_head {dir : Path} {recursive : Bool} {more : List Char}
    (elsewhere : more.head? ≠ some '/') :
    ¬ LiesBelow dir recursive (.ofList (front dir ++ more)) := by
  rintro ⟨rest, split, -⟩
  rw [String.toList_ofList] at split
  exact elsewhere (by rw [List.append_cancel_left split]; rfl)

end MemoryStore

namespace Engine

open MemoryStore

/-- The removal of the sources goes on past the files that cannot be removed. It returns the number
of the other files below the source directory; those that cannot be removed are then just what is
left there, and every file elsewhere is as it was, also where the name of a directory begins like
that of the source directory. -/
theorem cleanSources_removes {e : Engine MemoryStore σ ρ} {stuck : Path → Option StoreError}
    (store : e.store = MemoryStore.fileSystem.withStuck stuck)
    (s : EngineState MemoryStore σ ρ) (reach : s.files.Reachable)
    (there : e.store.isDir e.workspace.sourceDir s.files = true) :
    ∃ left, e.cleanSources s =
        (.ok (s.files.files.countP fun f =>
            LiesBelow e.workspace.sourceDir true f.1 ∧ stuck ⟨f.1⟩ = none),
          { s with files := left }) ∧
      (∀ f, LiesBelow e.workspace.sourceDir true f.1 →
        (f ∈ left.files ↔ f ∈ s.files.files ∧ stuck ⟨f.1⟩ ≠ none)) ∧
      (∀ f, ¬ LiesBelow e.workspace.sourceDir true f.1 → (f ∈ left.files ↔ f ∈ s.files.files)) ∧
      (∀ more content, more.head? ≠ some '/' →
        ((.ofList (front e.workspace.sourceDir ++ more), content) ∈ left.files ↔
          (.ofList (front e.workspace.sourceDir ++ more), content) ∈ s.files.files)) ∧
      left.dirs = s.files.dirs := by
  have list : e.store.list e.workspace.sourceDir "" true s.files =
      .ok (listed e.workspace.sourceDir "" true s.files) := by
    rw [store] at there ⊢
    exact list_ok there
  -- What every extension is asked of is just what lies below, but it is decided otherwise.
  have same (f : String × Bytes) :
      decide (Asked e.workspace.sourceDir "" true f.1 ∧ stuck ⟨f.1⟩ = none) =
        decide (LiesBelow e.workspace.sourceDir true f.1 ∧ stuck ⟨f.1⟩ = none) :=
    decide_eq_decide.2 (and_congr_left' liesBelow_iff_asked.symm)
  obtain ⟨left, removed, kept, dirs⟩ :=
    removeAll_listed_withStuck stuck e.workspace.sourceDir "" true reach
  simp only [← store, same] at removed
  simp only [← liesBelow_iff_asked] at kept
  have elsewhere (f : String × Bytes) (outside : ¬ LiesBelow e.workspace.sourceDir true f.1) :=
    (kept f).trans (and_iff_left fun under => absurd under outside)
  refine ⟨left, ?_, fun f under => (kept f).trans (and_congr_right fun _ => ?_), elsewhere,
    fun more content other => elsewhere _ (not_liesBelow_of_head other), dirs⟩
  · unfold cleanSources
    simp only [there, if_true, list, removed]
  · exact forall_prop_of_true under

/-- Two sources, one of them in a subdirectory, and a file of a directory whose name begins like
that of the sources. -/
def nestedSources : MemoryStore :=
  .withFiles [
    (⟨"w/source/a.cs"⟩, [0x61]),
    (⟨"w/source/deep/b.cs"⟩, [0x62]),
    (⟨"w/sources/c.cs"⟩, [0x63])]

/-- The first source cannot be removed. -/
def lockedSource : List Fault :=
  [⟨.remove, ⟨"w/source/a.cs"⟩, none⟩]

theorem cleanSources_removes_past_locked_source :
    nestedSources.Reachable ∧
      ∃ left, (inMemory.onStore (MemoryStore.fileSystem.withFaults lockedSource)).cleanSources
          (.start nestedSources []) = (.ok 1, .start left []) ∧
        ("w/source/a.cs", [0x61]) ∈ left.files ∧ ("w/source/deep/b.cs", [0x62]) ∉ left.files ∧
        ("w/sources/c.cs", [0x63]) ∈ left.files := by
  have reach : nestedSources.Reachable := reachable_withFiles _
  have store : (inMemory.onStore (MemoryStore.fileSystem.withFaults lockedSource)).store =
      MemoryStore.fileSystem.withStuck (Fault.find? lockedSource .remove) :=
    FileSystem.withFaults_eq_withStuck (by decide)
  obtain ⟨left, cleaned, below, elsewhere, -⟩ :=
    cleanSources_removes store (.start nestedSources []) reach (by rfl)
  have one : (nestedSources.files.countP fun f => LiesBelow ⟨"w/source"⟩ true f.1 ∧
      Fault.find? lockedSource .remove ⟨f.1⟩ = none) = 1 := by
    decide +kernel
  refine ⟨reach, left, cleaned.trans (congrArg (Except.ok ·, _) one),
    (below _ ?_).2 ?_, mt (below _ ?_).1 ?_, (elsewhere _ ?_).2 ?_⟩
  all_goals decide +kernel

end Engine
end PluginForge
