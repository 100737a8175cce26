/-
What the file system in memory holds after each operation, name by name. The names of its files are
normalized in every state that its operations lead to, so the paths that a listing gives are those
that can be read and removed again.
-/
import Mathlib.Data.List.DropRight
import PluginForge.Proofs.Lookup
import PluginForge.Store.Memory

namespace PluginForge.MemoryStore

/-! ## Normalized names -/

/-- The character that is kept for a character. -/
def slashed (c : Char) : Char :=
  if c = '\\' then '/' else c

theorem slashed_slashed (c : Char) : slashed (slashed c) = slashed c := by
  unfold slashed
  by_cases h : c = '\\' <;> simp [h]

/-- A name without separators at its end, unless it is one itself. -/
def trimmed (s : List Char) : List Char :=
  if s.length = 1 then s else Chars.trimEndOf (· == '/') s

theorem toList_normalize (p : Path) :
    (normalize p).toList = trimmed (p.text.toList.map slashed) := by
  have hm : (p.text.toList.map fun c => if c = '\\' then '/' else c) =
      p.text.toList.map slashed := rfl
  unfold normalize
  rw [hm]
  split
  · rename_i h
    rw [h]
    rfl
  · rename_i c h
    rw [h, String.toList_ofList]
    rfl
  · rename_i hc
    have hl : (p.text.toList.map slashed).length ≠ 1 := fun hl =>
      (List.length_eq_one_iff.1 hl).elim hc
    rw [String.toList_ofList, trimmed, if_neg hl]

theorem trimmed_subset (s : List Char) : trimmed s ⊆ s := by
  unfold trimmed
  split
  · exact List.Subset.refl s
  · intro c hc
    exact List.mem_reverse.1 ((List.dropWhile_suffix _).subset (List.mem_reverse.1 hc))

theorem trimmed_trimmed (s : List Char) : trimmed (trimmed s) = trimmed s := by
  by_cases h : s.length = 1
  · have hs : trimmed s = s := if_pos h
    rw [hs, hs]
  · have hs : trimmed s = Chars.trimEndOf (· == '/') s := if_neg h
    rw [hs]
    unfold trimmed
    split
    · rfl
    · simp only [Chars.trimEndOf, List.reverse_reverse, List.reverse_inj]
      exact List.dropWhile_idempotent _ _

theorem normalize_normalize (p : Path) : normalize ⟨normalize p⟩ = normalize p := by
  have hs : (normalize p).toList.map slashed = (normalize p).toList := by
    rw [toList_normalize]
    refine (List.map_congr_left fun c hc => ?_).trans (List.map_id _)
    obtain ⟨d, _, rfl⟩ := List.mem_map.1 (trimmed_subset _ hc)
    exact slashed_slashed d
  rw [← String.toList_inj, toList_normalize, hs, toList_normalize, trimmed_trimmed]

/-! ## Files by name -/

variable {name : String} {files : List (String × Bytes)}

theorem find?_insert (n : String) (content : Bytes) :
    find? name (insert n content files) = if n = name then some content else find? name files := by
  induction files with
  | nil => by_cases h : n = name <;> simp [find?, insert, h]
  | cons f rest ih =>
    obtain ⟨m, c⟩ := f
    unfold insert
    split
    · rename_i h
      subst h
      by_cases h : n = name <;> simp [find?, h]
    · rename_i hne
      split
      · by_cases h : n = name <;> simp [find?, h]
      · by_cases h : m = name
        · subst h
          simp [find?, hne]
        · have hi : find? name ((m, c) :: insert n content rest) =
              find? name (insert n content rest) := by
            simp [find?, h]
          have hr : find? name ((m, c) :: rest) = find? name rest := by
            simp [find?, h]
          rw [hi, hr, ih]

theorem find?_erase (n : String) :
    find? name (erase n files) = if n = name then none else find? name files := by
  rw [find?, erase, find?_key_filter_ne]
  split <;> rfl

theorem find?_eq_none_iff : find? name files = none ↔ ∀ f ∈ files, f.1 ≠ name := by
  simp [find?]

theorem find?_ne_none_iff : find? name files ≠ none ↔ name ∈ files.map (·.1) := by
  rw [Ne, find?_eq_none_iff]
  simp

theorem mem_of_find? {content : Bytes} (h : find? name files = some content) :
    (name, content) ∈ files := by
  obtain ⟨f, hf, rfl⟩ := Option.map_eq_some_iff.1 h
  obtain rfl : f.1 = name := by simpa using List.find?_some hf
  exact List.mem_of_find?_eq_some hf

theorem find?_of_nodup {content : Bytes} (hn : (files.map (·.1)).Nodup)
    (h : (name, content) ∈ files) : find? name files = some content := by
  rw [find?, find?_key_of_nodup hn h]
  rfl

theorem contains_iff {m : MemoryStore} :
    m.contains name = true ↔ find? name m.files ≠ none := by
  rw [Ne, find?_eq_none_iff, contains, List.any_eq_true]
  simp

/-! ## Operations -/

theorem read_of_find? {p : Path} {m : MemoryStore} {content : Bytes}
    (h : find? (normalize p) m.files = some content) : fileSystem.read p m = .ok content := by
  change m.read p = _
  rw [read, h]

theorem makeDir_files (p : Path) (m : MemoryStore) : (makeDir p m).2.files = m.files := by
  unfold makeDir
  split
  · rfl
  · split <;> rfl

theorem write_ok {p : Path} {content : Bytes} {m : MemoryStore}
    (h : (write p content m).1 = .ok ()) :
    (write p content m).2.files = insert (normalize p) content m.files := by
  unfold write at h ⊢
  split at h
  · cases h
  · rename_i hd
    rw [if_neg hd]

theorem write_error {p : Path} {content : Bytes} {m : MemoryStore} {err : StoreError}
    (h : (write p content m).1 = .error err) : (write p content m).2 = m := by
  unfold write at h ⊢
  split at h
  · rename_i hd
    rw [if_pos hd]
  · cases h

theorem remove_dirs (p : Path) (m : MemoryStore) : (remove p m).2.dirs = m.dirs := by
  unfold remove
  split <;> rfl

theorem write_dirs (p : Path) (content : Bytes) (m : MemoryStore) :
    (write p content m).2.dirs = m.dirs := by
  unfold write
  split <;> rfl

/-- What is not there cannot be removed, and is not there afterwards either. -/
theorem remove_files (p : Path) (m : MemoryStore) :
    (remove p m).2.files = erase (normalize p) m.files := by
  unfold remove
  split
  · rfl
  · rename_i h
    rw [contains_iff, ne_eq, not_not, find?_eq_none_iff] at h
    refine (List.filter_eq_self.2 fun f hf => ?_).symm
    simpa using h f hf

theorem removeAll_cons {φ : Type} (fs : FileSystem φ) (p : Path) (rest : List Path) (s : φ) :
    (fs.removeAll (p :: rest) s).2 = (fs.removeAll rest (fs.remove p s).2).2 := by
  conv_lhs => unfold FileSystem.removeAll
  rcases fs.remove p s with ⟨r, s'⟩
  cases r <;> rfl

theorem find?_removeAll (paths : List Path) (m : MemoryStore) :
    find? name (fileSystem.removeAll paths m).2.files =
      if name ∈ paths.map normalize then none else find? name m.files := by
  induction paths generalizing m with
  | nil => simp [FileSystem.removeAll]
  | cons p rest ih =>
    have hr : find? name (fileSystem.remove p m).2.files =
        if normalize p = name then none else find? name m.files :=
      (congrArg _ (remove_files p m)).trans (find?_erase _)
    rw [removeAll_cons, ih, hr]
    simp only [List.map_cons, List.mem_cons]
    by_cases hm : name ∈ rest.map normalize
    · rw [if_pos hm, if_pos (.inr hm)]
    · rw [if_neg hm]
      by_cases hp : normalize p = name
      · rw [if_pos hp, if_pos (.inl hp.symm)]
      · rw [if_neg hp, if_neg (not_or.2 ⟨fun h => hp h.symm, hm⟩)]

/-! ## States -/

/-- The states that the operations lead to from the empty one. -/
inductive Reachable : MemoryStore → Prop
  | empty : Reachable .empty
  | write {m} (p : Path) (content : Bytes) (h : Reachable m) : Reachable (m.write p content).2
  | remove {m} (p : Path) (h : Reachable m) : Reachable (m.remove p).2
  | makeDir {m} (p : Path) (h : Reachable m) : Reachable (m.makeDir p).2

/-- A state that holds some files, each written after the ones before it. -/
def withFiles (files : List (Path × Bytes)) : MemoryStore :=
  files.foldl (fun m f => (m.write f.1 f.2).2) .empty

theorem reachable_withFiles (files : List (Path × Bytes)) : Reachable (withFiles files) := by
  have h : ∀ m, Reachable m →
      Reachable (files.foldl (fun m f => (m.write f.1 f.2).2) m) := by
    induction files with
    | nil => exact fun m hm => hm
    | cons f rest ih => exact fun m hm => ih _ (hm.write f.1 f.2)
  exact h _ .empty

/-- Every file is kept under a normalized name. -/
def Normal (m : MemoryStore) : Prop :=
  ∀ f ∈ m.files, normalize ⟨f.1⟩ = f.1

theorem mem_insert {f : String × Bytes} {n : String} {content : Bytes}
    (h : f ∈ insert n content files) : f = (n, content) ∨ f ∈ files := by
  induction files with
  | nil => exact .inl (List.mem_singleton.1 h)
  | cons g rest ih =>
    obtain ⟨m, c⟩ := g
    unfold insert at h
    split at h
    · exact (List.mem_cons.1 h).imp_right (List.mem_cons_of_mem _)
    · split at h
      · exact List.mem_cons.1 h
      · rcases List.mem_cons.1 h with rfl | h
        · exact .inr List.mem_cons_self
        · exact (ih h).imp_right (List.mem_cons_of_mem _)

namespace Normal

variable {m : MemoryStore}

theorem write (h : m.Normal) (p : Path) (content : Bytes) : (m.write p content).2.Normal := by
  cases hw : (m.write p content).1 with
  | error err => rwa [write_error hw]
  | ok u =>
    intro f hf
    rw [write_ok hw] at hf
    rcases mem_insert hf with rfl | hf
    · exact normalize_normalize p
    · exact h f hf

theorem of_files {m' : MemoryStore} (h : m.Normal) (hf : m'.files = m.files) : m'.Normal := by
  intro f hm
  exact h f (hf ▸ hm)

theorem makeDir (h : m.Normal) (p : Path) : (m.makeDir p).2.Normal :=
  h.of_files (makeDir_files p m)

theorem remove (h : m.Normal) (p : Path) : (m.remove p).2.Normal := by
  intro f hf
  rw [remove_files] at hf
  exact h f (List.mem_of_mem_filter hf)

theorem removeAll (h : m.Normal) (paths : List Path) : (fileSystem.removeAll paths m).2.Normal := by
  induction paths generalizing m with
  | nil => exact h
  | cons p rest ih =>
    rw [removeAll_cons]
    exact ih (h.remove p)

end Normal

theorem Reachable.normal {m : MemoryStore} (h : Reachable m) : m.Normal := by
  induction h with
  | empty => exact fun f hf => nomatch hf
  | write p content _ ih => exact ih.write p content
  | remove p _ ih => exact ih.remove p
  | makeDir p _ ih => exact ih.makeDir p

/-! ## Listings -/

theorem isDirName_of_isListed {m : MemoryStore} {dir ext : String} {recursive : Bool}
    (hl : isListed (below dir) ext recursive name = true) (hf : find? name m.files ≠ none) :
    m.isDirName dir = true := by
  have hp : (below dir).isPrefixOf name.toList = true := by
    unfold isListed at hl
    split at hl
    · rename_i rest hr
      rw [List.isPrefixOf_iff_prefix, Chars.after?_eq_some_iff.1 hr]
      exact List.prefix_append _ _
    · cases hl
  have hm : m.files.any (fun f => (below dir).isPrefixOf f.1.toList) = true := by
    rw [Ne, find?_eq_none_iff] at hf
    push Not at hf
    obtain ⟨f, hfm, rfl⟩ := hf
    exact List.any_eq_true.2 ⟨f, hfm, hp⟩
  simp [isDirName, hm]

theorem list_ok {m : MemoryStore} {dir : Path} {ext : String} {recursive : Bool}
    (h : m.isDirName (normalize dir) = true) :
    fileSystem.list dir ext recursive m = .ok (((m.files.map (·.1)).filter
      (isListed (below (normalize dir)) ext recursive)).map .mk) :=
  if_pos h

theorem list_error {m : MemoryStore} {dir : Path} {ext : String} {recursive : Bool}
    (h : ¬ m.isDirName (normalize dir) = true) :
    fileSystem.list dir ext recursive m = .error (.notFound (normalize dir)) :=
  if_neg h

/-- What is listed for a directory that is there. -/
theorem mem_list_iff {m : MemoryStore} {dir p : Path} {ext : String} {recursive : Bool} :
    (∃ paths, fileSystem.list dir ext recursive m = .ok paths ∧ p ∈ paths) ↔
      isListed (below (normalize dir)) ext recursive p.text = true ∧
        find? p.text m.files ≠ none := by
  constructor
  · rintro ⟨paths, hl, hp⟩
    by_cases hd : m.isDirName (normalize dir) = true
    · rw [list_ok hd] at hl
      cases hl
      obtain ⟨name, hn, rfl⟩ := List.mem_map.1 hp
      obtain ⟨hm, hi⟩ := List.mem_filter.1 hn
      exact ⟨hi, find?_ne_none_iff.2 hm⟩
    · rw [list_error hd] at hl
      cases hl
  · rintro ⟨hi, hf⟩
    refine ⟨_, list_ok (isDirName_of_isListed hi hf), List.mem_map.2 ⟨p.text, ?_, rfl⟩⟩
    exact List.mem_filter.2 ⟨find?_ne_none_iff.1 hf, hi⟩

theorem Normal.normalize_of_find? {m : MemoryStore} (h : m.Normal) {p : Path}
    (hf : find? p.text m.files ≠ none) : normalize p = p.text := by
  obtain ⟨f, hm, hn⟩ := List.mem_map.1 (find?_ne_none_iff.1 hf)
  have hf := h f hm
  rwa [hn] at hf

theorem Normal.mem_map_normalize_iff {m : MemoryStore} (h : m.Normal) {dir : Path} {ext : String}
    {recursive : Bool} {paths : List Path}
    (hl : fileSystem.list dir ext recursive m = .ok paths) :
    name ∈ paths.map normalize ↔
      isListed (below (normalize dir)) ext recursive name = true ∧ find? name m.files ≠ none := by
  constructor
  · intro hn
    obtain ⟨p, hp, rfl⟩ := List.mem_map.1 hn
    obtain ⟨hi, hf⟩ := mem_list_iff.1 ⟨paths, hl, hp⟩
    rw [h.normalize_of_find? hf]
    exact ⟨hi, hf⟩
  · intro hn
    obtain ⟨paths', hl', hp⟩ := (mem_list_iff (p := ⟨name⟩)).2 hn
    rw [hl] at hl'
    cases hl'
    exact List.mem_map.2 ⟨_, hp, h.normalize_of_find? (p := ⟨name⟩) hn.2⟩

/-- The files that are listed for a directory and an extension are gone, and nothing else is. -/
theorem Normal.find?_removeListed {m : MemoryStore} (h : m.Normal) (dir : Path) (ext : String) :
    find? name (fileSystem.removeListed dir ext m).2.files =
      if isListed (below (normalize dir)) ext false name = true then none
      else find? name m.files := by
  unfold FileSystem.removeListed
  cases hl : fileSystem.list dir ext false m with
  | error err =>
    dsimp only
    split
    · rename_i hi
      by_contra hf
      obtain ⟨paths, hp, _⟩ := (mem_list_iff (p := ⟨name⟩)).2 ⟨hi, hf⟩
      rw [hl] at hp
      cases hp
    · rfl
  | ok paths =>
    have hn : name ∈ paths.map normalize ↔ _ := h.mem_map_normalize_iff hl
    dsimp only
    rw [find?_removeAll]
    by_cases hi : isListed (below (normalize dir)) ext false name = true
    · rw [if_pos hi]
      split
      · rfl
      · rename_i hm
        by_contra hf
        exact hm (hn.2 ⟨hi, hf⟩)
    · rw [if_neg hi, if_neg fun hm => hi (hn.1 hm).1]

theorem Normal.removeListed {m : MemoryStore} (h : m.Normal) (dir : Path) (ext : String) :
    (fileSystem.removeListed dir ext m).2.Normal := by
  unfold FileSystem.removeListed
  split
  · exact h.removeAll _
  · exact h

end PluginForge.MemoryStore
