/-
Paths that are files and directories at once in a file system in memory. A directory is there because
it was made or because something lies below it, and writing a file only looks for the former, making a
directory only for a file in its very place. So a file can come to lie where a directory is, or below
another file. Just those calls do it (`Oversteps`); no file ever lies where a directory was made.
-/
import PluginForge.Proofs.MemoryStore

namespace PluginForge.MemoryStore

variable {m : MemoryStore} {name : String}

/-! ## What lies below what -/

/-- A name starts with that of a directory and a separator. -/
def IsBelow (dir name : String) : Prop :=
  (below dir).isPrefixOf name.toList = true

instance (dir name : String) : Decidable (IsBelow dir name) :=
  inferInstanceAs (Decidable (_ = true))

def names (m : MemoryStore) : List String :=
  m.files.map (·.1)

theorem isDirName_iff : m.isDirName name = true ↔
    name ∈ m.dirs ∨ (∃ n ∈ m.names, IsBelow name n) ∨ ∃ d ∈ m.dirs, IsBelow name d := by
  simp [isDirName, names, IsBelow, or_assoc]

theorem isFile_iff {p : Path} : isFile p m = true ↔ normalize p ∈ m.names :=
  contains_iff.trans find?_ne_none_iff

/-- No path is that of a file and that of a directory. -/
def Apart (m : MemoryStore) : Prop :=
  ∀ p, ¬ (isFile p m = true ∧ isDir p m = true)

theorem apart_iff (h : m.Normal) : m.Apart ↔ ∀ n ∈ m.names, ¬ m.isDirName n = true := by
  constructor
  · intro apart n hn hd
    have same : normalize ⟨n⟩ = n := h.normalize_of_find? (find?_ne_none_iff.2 hn)
    exact apart ⟨n⟩ ⟨isFile_iff.2 (same.symm ▸ hn), (congrArg m.isDirName same).trans hd⟩
  · exact fun names p ⟨hf, hd⟩ => names _ (isFile_iff.1 hf) hd

/-! ## Calls -/

/-- A call that may change the files or the directories. -/
inductive Call where
  | write (p : Path) (content : Bytes)
  | remove (p : Path)
  | makeDir (p : Path)

/-- The state after a call. -/
def perform (m : MemoryStore) : Call → MemoryStore
  | .write p content => (m.write p content).2
  | .remove p => (m.remove p).2
  | .makeDir p => (m.makeDir p).2

theorem Normal.perform (h : m.Normal) (c : Call) : (m.perform c).Normal := by
  cases c with
  | write p content => exact h.write p content
  | remove p => exact h.remove p
  | makeDir p => exact h.makeDir p

/-- The state that some calls lead to from the empty one. -/
def run (calls : List Call) : MemoryStore :=
  calls.foldl perform .empty

theorem run_concat (calls : List Call) (c : Call) : run (calls ++ [c]) = (run calls).perform c := by
  rw [run, List.foldl_concat]
  rfl

/-- The states that calls lead to are the reachable ones. -/
theorem reachable_iff_exists_run : m.Reachable ↔ ∃ calls, run calls = m := by
  constructor
  · intro h
    induction h with
    | empty => exact ⟨[], rfl⟩
    | write p content _ ih =>
      obtain ⟨calls, rfl⟩ := ih
      exact ⟨calls ++ [.write p content], run_concat _ _⟩
    | remove p _ ih =>
      obtain ⟨calls, rfl⟩ := ih
      exact ⟨calls ++ [.remove p], run_concat _ _⟩
    | makeDir p _ ih =>
      obtain ⟨calls, rfl⟩ := ih
      exact ⟨calls ++ [.makeDir p], run_concat _ _⟩
  · rintro ⟨calls, rfl⟩
    induction calls using List.reverseRecOn with
    | nil => exact .empty
    | append_singleton calls c ih =>
      rw [run_concat]
      cases c with
      | write p content => exact ih.write p content
      | remove p => exact ih.remove p
      | makeDir p => exact ih.makeDir p

/-! ## What calls do to names and directories -/

theorem mem_names_write {p : Path} {content : Bytes} (h : normalize p ∉ m.dirs) :
    name ∈ (m.write p content).2.names ↔ name = normalize p ∨ name ∈ m.names := by
  have files : (m.write p content).2.files = insert (normalize p) content m.files := by
    rw [write, if_neg h]
  rw [names, files, ← find?_ne_none_iff, find?_insert, names, ← find?_ne_none_iff]
  by_cases hn : normalize p = name
  · simp [hn]
  · simp [hn, Ne.symm hn]

theorem mem_names_remove {p : Path} :
    name ∈ (m.remove p).2.names ↔ name ≠ normalize p ∧ name ∈ m.names := by
  rw [names, ← find?_ne_none_iff, remove_files, find?_erase, names, ← find?_ne_none_iff]
  by_cases hn : normalize p = name
  · simp [hn]
  · simp [hn, Ne.symm hn]

theorem names_makeDir (p : Path) : (m.makeDir p).2.names = m.names :=
  congrArg (List.map Prod.fst) (makeDir_files p m)

theorem mem_dirs_makeDir {p : Path} (h : normalize p ∉ m.names) :
    name ∈ (m.makeDir p).2.dirs ↔ name = normalize p ∨ name ∈ m.dirs := by
  have free : ¬ m.contains (normalize p) = true := fun hc => h (find?_ne_none_iff.1 (contains_iff.1 hc))
  rw [makeDir, if_neg free]
  split
  · rename_i hd
    exact ⟨.inr, fun hn => hn.elim (fun he => he ▸ hd) id⟩
  · exact List.mem_cons

/-! ## Files where directories were made -/

/-- No file lies where a directory was made. -/
def Clear (m : MemoryStore) : Prop :=
  ∀ n ∈ m.names, n ∉ m.dirs

theorem Clear.perform (h : m.Clear) (c : Call) : (m.perform c).Clear := by
  cases c with
  | write p content =>
    by_cases hd : normalize p ∈ m.dirs
    · have refused : m.perform (.write p content) = m := congrArg Prod.snd (if_pos hd)
      rwa [refused]
    · intro n hn
      rw [MemoryStore.perform, write_dirs]
      rcases (mem_names_write hd).1 hn with rfl | hn
      · exact hd
      · exact h n hn
  | remove p =>
    intro n hn
    rw [MemoryStore.perform, remove_dirs]
    exact h n (mem_names_remove.1 hn).2
  | makeDir p =>
    by_cases hf : normalize p ∈ m.names
    · have refused : m.perform (.makeDir p) = m :=
        congrArg Prod.snd (if_pos (contains_iff.2 (find?_ne_none_iff.2 hf)))
      rwa [refused]
    · intro n hn hd
      rw [MemoryStore.perform, names_makeDir] at hn
      rcases (mem_dirs_makeDir hf).1 hd with rfl | hd
      · exact hf hn
      · exact h n hn hd

theorem clear_run (calls : List Call) : (run calls).Clear := by
  induction calls using List.reverseRecOn with
  | nil => exact fun _ hn => absurd hn List.not_mem_nil
  | append_singleton calls c ih =>
    rw [run_concat]
    exact ih.perform c

/-! ## Calls that bring a file and a directory together -/

/-- A call is let through although it puts a file where things lie below it, or something below a
file. The name `/` lies below itself. -/
def Oversteps (m : MemoryStore) : Call → Prop
  | .write p _ => normalize p ∉ m.dirs ∧
      (m.isDirName (normalize p) = true ∨ ∃ n ∈ normalize p :: m.names, IsBelow n (normalize p))
  | .remove _ => False
  | .makeDir p => normalize p ∉ m.names ∧ ∃ n ∈ m.names, IsBelow n (normalize p)

theorem isDirName_write_iff {p : Path} {content : Bytes} (h : normalize p ∉ m.dirs) :
    (m.write p content).2.isDirName name = true ↔
      m.isDirName name = true ∨ IsBelow name (normalize p) := by
  simp only [isDirName_iff, write_dirs, mem_names_write h, or_and_right, exists_or, exists_eq_left,
    or_left_comm, or_comm]

theorem isDirName_makeDir_iff {p : Path} (h : normalize p ∉ m.names) :
    (m.makeDir p).2.isDirName name = true ↔
      m.isDirName name = true ∨ name = normalize p ∨ IsBelow name (normalize p) := by
  simp only [isDirName_iff, names_makeDir, mem_dirs_makeDir h, or_and_right, exists_or,
    exists_eq_left, or_assoc, or_left_comm, or_comm]

theorem isDirName_of_remove {p : Path} (h : (m.remove p).2.isDirName name = true) :
    m.isDirName name = true := by
  rw [isDirName_iff, remove_dirs] at h
  rw [isDirName_iff]
  exact h.imp_right (Or.imp_left fun ⟨n, hn, hb⟩ => ⟨n, (mem_names_remove.1 hn).2, hb⟩)

/-- From a state in which files and directories are apart, just the calls that overstep lead to one in
which they are not. -/
theorem apart_perform_iff (hm : m.Normal) (h : m.Apart) (c : Call) :
    (m.perform c).Apart ↔ ¬ m.Oversteps c := by
  rw [apart_iff hm] at h
  rw [apart_iff (hm.perform c)]
  cases c with
  | write p content =>
    by_cases hd : normalize p ∈ m.dirs
    · have refused : m.perform (.write p content) = m := congrArg Prod.snd (if_pos hd)
      rw [refused]
      exact iff_of_true h fun hs => hs.1 hd
    · simp only [MemoryStore.perform, mem_names_write hd, isDirName_write_iff hd, forall_eq_or_imp,
        Oversteps, hd, not_false_eq_true, true_and, List.mem_cons, exists_eq_or_imp]
      refine ⟨?apart, fun hs => ⟨fun hp => hs (hp.imp_right .inl), fun n hn hp => ?free⟩⟩
      case apart =>
        rintro ⟨hself, hothers⟩ (hp | hp | ⟨n, hn, hp⟩)
        · exact hself (.inl hp)
        · exact hself (.inr hp)
        · exact hothers n hn (.inr hp)
      case free => exact hp.elim (h n hn) fun hb => hs (.inr (.inr ⟨n, hn, hb⟩))
  | remove p =>
    refine iff_of_true (fun n hn hd => ?_) id
    exact h n (mem_names_remove.1 hn).2 (isDirName_of_remove hd)
  | makeDir p =>
    by_cases hf : normalize p ∈ m.names
    · have refused : m.perform (.makeDir p) = m :=
        congrArg Prod.snd (if_pos (contains_iff.2 (find?_ne_none_iff.2 hf)))
      rw [refused]
      exact iff_of_true h fun hs => hs.1 hf
    · simp only [MemoryStore.perform, names_makeDir, isDirName_makeDir_iff hf, Oversteps, hf,
        not_false_eq_true, true_and]
      refine ⟨fun apart ⟨n, hn, hb⟩ => apart n hn (.inr (.inr hb)), fun hs n hn hp => ?_⟩
      rcases hp with hd | rfl | hb
      · exact h n hn hd
      · exact hf hn
      · exact hs ⟨n, hn, hb⟩

/-- Whatever calls are made, no file lies where a directory was made; and files and directories are
apart all along just if no call oversteps. -/
theorem run_apart_iff (calls : List Call) :
    (∀ p, isFile p (run calls) = true → normalize p ∉ (run calls).dirs) ∧
      ((∀ xs, xs <+: calls → (run xs).Apart) ↔
        ∀ xs c, xs ++ [c] <+: calls → ¬ (run xs).Oversteps c) := by
  have step {xs : List Call} (apart : (run xs).Apart) (c : Call) :
      (run (xs ++ [c])).Apart ↔ ¬ (run xs).Oversteps c := by
    rw [run_concat]
    exact apart_perform_iff (reachable_iff_exists_run.2 ⟨xs, rfl⟩).normal apart c
  refine ⟨fun p hp => clear_run calls _ (isFile_iff.1 hp), fun apart xs c hx => ?_, fun keeps xs => ?_⟩
  · exact (step (apart xs ((List.prefix_append xs [c]).trans hx)) c).1 (apart _ hx)
  · induction xs using List.reverseRecOn with
    | nil => exact fun _ p ⟨hf, _⟩ => absurd (isFile_iff.1 hf) List.not_mem_nil
    | append_singleton xs c ih =>
      intro hx
      exact (step (ih ((List.prefix_append xs [c]).trans hx)) c).2 (keeps xs c hx)

/-- In every reachable state files and directories are apart. -/
def KeepsApart : Prop :=
  ∀ m, Reachable m → m.Apart

/-- A file can be written where another file makes a directory. -/
theorem not_keepsApart : ¬ KeepsApart := by
  intro apart
  have reach := reachable_iff_exists_run.2 ⟨[.write ⟨"/a/b"⟩ [], .write ⟨"/a"⟩ []], rfl⟩
  exact apart _ reach ⟨"/a"⟩ (by decide)

end PluginForge.MemoryStore
