/-
What a file system in memory lists, name by name: the files below a directory that have an
extension, each once and in the order of its bytes. What is listed is what is there, so all of it
can be read and removed, and removing it leaves the other files alone.

The files below a directory are told by their names, which go on from the name of the directory with
a separator; those of the root go on from the empty name, and so does the name `/` itself.
-/
import PluginForge.Proofs.Agreement
import PluginForge.Proofs.Layout
import PluginForge.Proofs.Utf8

namespace PluginForge.MemoryStore

/-! ## What lies below a directory -/

/-- What the names below a directory have in front of a separator. -/
def front (dir : Path) : List Char :=
  Chars.trimEndOf (· == '/') (dir.text.toList.map slashed)

/-- A file of this name lies below a directory; if not recursively, then directly in it. -/
def LiesBelow (dir : Path) (recursive : Bool) (name : String) : Prop :=
  ∃ rest, name.toList = front dir ++ '/' :: rest ∧ (recursive = true ∨ '/' ∉ rest)

theorem below_normalize_eq (dir : Path) : below (normalize dir) = front dir ++ ['/'] := by
  have name := toList_normalize dir
  unfold below front
  rw [name]
  unfold trimmed
  split
  · -- A path of one character is kept as it is, even if it is a separator.
    rename_i single
    obtain ⟨c, hc⟩ := List.length_eq_one_iff.1 single
    rw [hc]
    by_cases separator : c = '/' <;> simp [Chars.trimEndOf, separator]
  · rw [if_neg]
    intro last
    rw [Chars.trimEndOf, List.getLast?_reverse] at last
    have first := List.head?_dropWhile_not (· == '/') (dir.text.toList.map slashed).reverse
    rw [last] at first
    exact absurd first (by decide)

/-- The files that a listing asks for. -/
structure Asked (dir : Path) (extension : String) (recursive : Bool) (name : String) : Prop where
  below : LiesBelow dir recursive name
  extension : extension = "" ∨
    (Path.mk name).smallExtension? = some (wantedExtension extension)

theorem hasExtension_iff_smallExtension? {p : Path} {extension : String} :
    p.hasExtension extension = true ↔
      extension = "" ∨ p.smallExtension? = some (wantedExtension extension) := by
  by_cases any : extension = ""
  · simp [Path.hasExtension, any]
  · refine ⟨fun h => .inr (Path.smallExtension?_of_hasExtension any h), fun h => ?_⟩
    obtain ⟨e, own, small⟩ := Option.map_eq_some_iff.1 (h.resolve_left any)
    exact (Path.hasExtension_iff own any).2 (congrArg String.ofList small)

variable {dir : Path} {extension : String} {recursive : Bool} {name : String} {m : MemoryStore}

theorem isListed_iff_asked :
    isListed (below (normalize dir)) extension recursive name = true ↔
      Asked dir extension recursive name := by
  have goesOn (rest : List Char) : Chars.after? (below (normalize dir)) name.toList = some rest ↔
      name.toList = front dir ++ '/' :: rest := by
    rw [Chars.after?_eq_some_iff, below_normalize_eq, List.append_assoc, List.singleton_append]
  unfold isListed
  constructor
  · intro h
    split at h
    · rename_i rest after
      obtain ⟨deep, own⟩ := Bool.and_eq_true_iff.1 h
      refine ⟨⟨rest, (goesOn rest).1 after, ?_⟩, hasExtension_iff_smallExtension?.1 own⟩
      simpa using deep
    · cases h
  · rintro ⟨⟨rest, split, deep⟩, own⟩
    rw [(goesOn rest).2 split]
    simpa [hasExtension_iff_smallExtension?.2 own] using deep

instance : Decidable (Asked dir extension recursive name) :=
  decidable_of_iff _ isListed_iff_asked

theorem liesBelow_iff_asked : LiesBelow dir recursive name ↔ Asked dir "" recursive name :=
  ⟨fun h => ⟨h, .inl rfl⟩, Asked.below⟩

instance : Decidable (LiesBelow dir recursive name) :=
  decidable_of_iff _ liesBelow_iff_asked.symm

/-! ## Listings -/

theorem mem_listed_iff (sorted : Sorted m.files) {p : Path} :
    p ∈ listed dir extension recursive m ↔
      (∃ content, (p.text, content) ∈ m.files) ∧ Asked dir extension recursive p.text := by
  rw [mem_listed, isListed_iff_asked, and_comm, Option.ne_none_iff_exists']
  simp only [sorted.find?_eq_some_iff]

theorem pairwise_listed (sorted : Sorted m.files) :
    (listed dir extension recursive m).Pairwise fun p q => p.text < q.text := by
  rw [listed, List.pairwise_map]
  refine List.Pairwise.filter _ ?_
  rw [List.pairwise_map]
  exact sorted

theorem nodup_listed (sorted : Sorted m.files) : (listed dir extension recursive m).Nodup :=
  (pairwise_listed sorted).imp fun {p q} lower same => by
    rw [same] at lower
    exact lt_irrefl _ lower

/-! ## Removing what is there -/

/-- Files that are there are removed all, and no other file is. -/
theorem removeAll_stored {paths : List Path} (normal : m.Normal) (distinct : paths.Nodup)
    (there : ∀ p ∈ paths, ∃ content, (p.text, content) ∈ m.files) :
    fileSystem.removeAll paths m =
      (paths.length, { m with files := m.files.filter fun f => Path.mk f.1 ∉ paths }) := by
  induction paths generalizing m with
  | nil => simp [FileSystem.removeAll]
  | cons p rest ih =>
    obtain ⟨own⟩ := p
    obtain ⟨first, others⟩ := List.nodup_cons.1 distinct
    obtain ⟨⟨content, stored⟩, more⟩ := List.forall_mem_cons.1 there
    have name : normalize ⟨own⟩ = own := normal _ stored
    have found : m.contains (normalize ⟨own⟩) = true := by
      rw [name]
      exact List.any_eq_true.2 ⟨_, stored, decide_eq_true rfl⟩
    have removed : fileSystem.remove ⟨own⟩ m = (.ok (), { m with files := erase own m.files }) :=
      (if_pos found).trans (by rw [name])
    have left : ∀ q ∈ rest, ∃ content, (q.text, content) ∈ erase own m.files := by
      intro q hq
      obtain ⟨content, stored⟩ := more q hq
      refine ⟨content, List.mem_filter.2 ⟨stored, decide_eq_true ?_⟩⟩
      rintro rfl
      exact first hq
    have next := ih (m := { m with files := erase own m.files })
      (fun f hf => normal f (List.mem_of_mem_filter hf)) others left
    unfold FileSystem.removeAll
    rw [removed]
    dsimp only
    rw [next]
    simp [erase, List.filter_filter, Bool.and_comm]

/-- In every state that is reached, listing a directory fails just if it is not there. Otherwise
the paths are those of the files asked for, in strictly increasing order of their bytes; each of
them can be read and measured; and removing them one by one succeeds for every one, takes these
files out and leaves the other files and the directories alone. -/
theorem listing_exact (h : m.Reachable) (dir : Path) (extension : String) (recursive : Bool) :
    ((∃ err, fileSystem.list dir extension recursive m = .error err) ↔
      fileSystem.isDir dir m = false) ∧
    ∀ paths, fileSystem.list dir extension recursive m = .ok paths →
      paths.Pairwise (fun p q => Encoding.toUtf8 p.text < Encoding.toUtf8 q.text) ∧
      (∀ p, p ∈ paths ↔
        (∃ content, (p.text, content) ∈ m.files) ∧ Asked dir extension recursive p.text) ∧
      (∀ p ∈ paths, ∃ content, (p.text, content) ∈ m.files ∧
        fileSystem.read p m = .ok content ∧ fileSystem.size p m = .ok content.length) ∧
      ∃ left, fileSystem.removeAll paths m = (paths.length, left) ∧ left.dirs = m.dirs ∧
        ∀ f, f ∈ left.files ↔ f ∈ m.files ∧ ¬ Asked dir extension recursive f.1 := by
  constructor
  · change _ ↔ m.isDirName (normalize dir) = false
    by_cases there : m.isDirName (normalize dir) = true
    · rw [list_ok there, there]
      exact iff_of_false nofun nofun
    · rw [list_error there]
      exact iff_of_true ⟨_, rfl⟩ (Bool.eq_false_iff.2 there)
  · intro paths list
    obtain rfl := eq_listed list
    have mem := fun p => @mem_listed_iff dir extension recursive m h.sorted p
    refine ⟨(pairwise_listed h.sorted).imp Encoding.toUtf8_lt, mem, fun p hp => ?_, _,
      removeAll_stored h.normal (nodup_listed h.sorted) fun p hp => ((mem p).1 hp).1, rfl,
      fun f => ?_⟩
    · obtain ⟨⟨content, stored⟩, -⟩ := (mem p).1 hp
      have name : normalize p = p.text := h.normal _ stored
      have read : fileSystem.read p m = .ok content :=
        read_of_find? (by rw [name]; exact h.sorted.find?_eq_some_iff.2 stored)
      refine ⟨content, stored, read, ?_⟩
      change (fileSystem.read p m).map List.length = _
      rw [read]
      rfl
    · rw [List.mem_filter, decide_eq_true_iff, mem]
      exact and_congr_right fun stored => not_congr ⟨And.right, fun asked => ⟨⟨_, stored⟩, asked⟩⟩

/-- Sources directly in a directory and below it, one of them with a capital in its extension, and
two files that are none of its sources. -/
def twoDirectories : MemoryStore :=
  .withFiles [
    (⟨"/src/b.cs"⟩, [0x62]),
    (⟨"\\src\\a.cs"⟩, [0x61]),
    (⟨"/src/readme.md"⟩, [0x72]),
    (⟨"/src/nested/c.Cs"⟩, [0x63]),
    (⟨"/srcother/d.cs"⟩, [0x64])]

theorem listing_exact_two_directories :
    twoDirectories.Reachable ∧
      fileSystem.list ⟨"/src/"⟩ ".cs" true twoDirectories =
        .ok [⟨"/src/a.cs"⟩, ⟨"/src/b.cs"⟩, ⟨"/src/nested/c.Cs"⟩] ∧
      ∃ left, fileSystem.removeAll [⟨"/src/a.cs"⟩, ⟨"/src/b.cs"⟩, ⟨"/src/nested/c.Cs"⟩]
          twoDirectories = (3, left) ∧
        ∀ f, f ∈ left.files ↔ f ∈ twoDirectories.files ∧ ¬ Asked ⟨"/src/"⟩ ".cs" true f.1 := by
  have reach : twoDirectories.Reachable := reachable_withFiles _
  have list : fileSystem.list ⟨"/src/"⟩ ".cs" true twoDirectories =
      .ok [⟨"/src/a.cs"⟩, ⟨"/src/b.cs"⟩, ⟨"/src/nested/c.Cs"⟩] := by rfl
  obtain ⟨-, -, -, left, removed, -, kept⟩ := (listing_exact reach ⟨"/src/"⟩ ".cs" true).2 _ list
  exact ⟨reach, list, left, removed, kept⟩

end PluginForge.MemoryStore
