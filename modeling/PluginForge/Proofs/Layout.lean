/-
How file systems keep their files. A path stands for a place; a call that writes or removes a file
touches what is at one place and no other, and a listing can be told by the places of what it lists.
These laws (`FileSystem.Layout`) hold of the file system in memory, in states whose names are normal.
-/
import PluginForge.Proofs.Confinement
import PluginForge.Proofs.Recording

namespace PluginForge

variable {φ : Type}

/-- A file is listed directly in a directory under an extension. -/
def FileSystem.Lists (fs : FileSystem φ) (dir : Path) (extension : String) (s : φ) (p : Path) : Prop :=
  ∃ paths, fs.list dir extension false s = .ok paths ∧ p ∈ paths

/-- The extension of a path in small letters. -/
def Path.smallExtension? (p : Path) : Option (List Char) :=
  p.extension?.map fun e => Chars.lowerAscii e.toList

/-- An extension as it is looked for: in small letters and without its dot. -/
def wantedExtension (extension : String) : List Char :=
  Chars.lowerAscii (extension.toList.dropWhile (· == '.'))

theorem Path.smallExtension?_of_hasExtension {p : Path} {wanted : String} (hw : wanted ≠ "")
    (h : p.hasExtension wanted = true) : p.smallExtension? = some (wantedExtension wanted) := by
  unfold hasExtension at h
  unfold smallExtension? wantedExtension
  cases he : p.extension? with
  | none => simp [he, hw] at h
  | some e =>
    rw [he, Bool.or_eq_true, decide_eq_true_eq, decide_eq_true_eq] at h
    exact congrArg some (String.ofList_injective (h.resolve_left hw))

open MemoryStore (EndsPlain)

/-- The places of a file system, and the laws about them in the states that are sound. -/
structure FileSystem.Layout (fs : FileSystem φ) where
  Sound : φ → Prop
  keeps : fs.Keeps Sound
  Place : Type
  place : Path → Place
  /-- The extension of what is at a place, in small letters. -/
  extension? : Place → Option (List Char)
  /-- Files with different names are at different places. -/
  name_inj {dir dir' : Path} {file file' : String} {stem ext stem' ext' : List Char} :
    EndsPlain dir.text.toList → EndsPlain dir'.text.toList → IsFileName file.toList stem ext →
    IsFileName file'.toList stem' ext' → place (dir.join file) = place (dir'.join file') →
    file = file'
  extension?_join {dir : Path} {file : String} {stem ext : List Char} :
    EndsPlain dir.text.toList → IsFileName file.toList stem ext →
    extension? (place (dir.join file)) = some (Chars.lowerAscii ext)
  extension?_of_lists {dir p : Path} {wanted : String} {s : φ} : Sound s → wanted ≠ "" →
    fs.Lists dir wanted s p → extension? (place p) = some (wantedExtension wanted)
  /-- A directory that is there can be listed, and no other path can. -/
  isDir_iff {dir : Path} {wanted : String} {s : φ} :
    fs.isDir dir s = true ↔ ∃ paths, fs.list dir wanted false s = .ok paths
  /-- What is removed is listed no more, and nothing comes in its stead. -/
  lists_of_remove {dir p q : Path} {wanted : String} {s s' : φ} : Sound s →
    EndsPlain dir.text.toList → fs.remove p s = (.ok (), s') → fs.Lists dir wanted s' q →
    fs.Lists dir wanted s q ∧ place q ≠ place p
  isFile_of_read {p : Path} {content : Bytes} {s : φ} : fs.read p s = .ok content →
    fs.isFile p s = true
  /-- What is written can be read. -/
  read_write {p : Path} {content : Bytes} {s s' : φ} : fs.write p content s = (.ok (), s') →
    fs.isFile p s' = true ∧ fs.read p s' = .ok content
  /-- A call leaves a file alone that is not at the place of its own. -/
  spares {p : Path} {c : StoreChange} {s s' : φ} : fs.Does s c s' → fs.isFile p s = true →
    (∀ q, c.target? = some q → place q ≠ place p) →
    fs.isFile p s' = true ∧ fs.read p s' = fs.read p s

/-! ## Calls in a row -/

namespace FileSystem

variable {fs : FileSystem φ} {I : φ → Prop} {s s' : φ} {changes : List StoreChange}

theorem Keeps.does (h : fs.Keeps I) {c : StoreChange} (does : fs.Does s c s') (hs : I s) : I s' := by
  cases does with
  | @write p content s r s' hw =>
    have kept := h.write p content s hs
    rwa [hw] at kept
  | @remove p s r s' hr =>
    have kept := h.remove p s hs
    rwa [hr] at kept
  | @makeDir p s r s' hm =>
    have kept := h.makeDir p s hs
    rwa [hm] at kept

theorem Keeps.did (h : fs.Keeps I) (did : fs.Did s changes s') (hs : I s) : I s' := by
  induction did with
  | nil => exact hs
  | cons first _ ih => exact ih (h.does first hs)

theorem Keeps.recorded (h : fs.Keeps I) : fs.recorded.Keeps fun r => I r.state where
  write p content r := h.write p content r.state
  remove p r := h.remove p r.state
  makeDir p r := h.makeDir p r.state

theorem removeAll_did (paths : List Path) (s : φ) :
    ∃ changes, fs.Did s changes (fs.removeAll paths s).2 ∧
      ∀ c ∈ changes, ∀ q, c.target? = some q → q ∈ paths := by
  induction paths generalizing s with
  | nil => exact ⟨[], .nil, by simp⟩
  | cons p rest ih =>
    obtain ⟨changes, did, targets⟩ := ih (fs.remove p s).2
    rw [MemoryStore.removeAll_cons]
    refine ⟨_, .cons (.remove rfl) did, List.forall_mem_cons.2 ⟨fun q hq => ?_, fun c hc q hq => ?_⟩⟩
    · cases hq
      exact List.mem_cons_self
    · exact List.mem_cons_of_mem p (targets c hc q hq)

/-- Of the files of a directory, those are removed that are listed. -/
theorem removeListed_did (dir : Path) (extension : String) (s : φ) :
    ∃ changes, fs.Did s changes (fs.removeListed dir extension s).2 ∧
      ∀ c ∈ changes, ∀ q, c.target? = some q → fs.Lists dir extension s q := by
  unfold removeListed
  cases hl : fs.list dir extension false s with
  | error err => exact ⟨[], .nil, by simp⟩
  | ok paths =>
    obtain ⟨changes, did, targets⟩ := removeAll_did paths s
    exact ⟨changes, did, fun c hc q hq => ⟨paths, hl, targets c hc q hq⟩⟩

namespace Layout

variable {p : Path} (L : fs.Layout)

/-- Calls leave a file alone if none of them is at its place. -/
theorem did_spares (did : fs.Did s changes s') (there : fs.isFile p s = true)
    (hc : ∀ c ∈ changes, ∀ q, c.target? = some q → L.place q ≠ L.place p) :
    fs.isFile p s' = true ∧ fs.read p s' = fs.read p s := by
  induction did with
  | nil => exact ⟨there, rfl⟩
  | cons first _ ih =>
    obtain ⟨own, others⟩ := List.forall_mem_cons.1 hc
    obtain ⟨there, same⟩ := L.spares first there own
    obtain ⟨there, same'⟩ := ih there others
    exact ⟨there, same'.trans same⟩

include L in
/-- What is read can still be read after directories were made. -/
theorem read_of_makesDirs {content : Bytes} (made : fs.MakesDirs s s')
    (h : fs.read p s = .ok content) : fs.read p s' = .ok content := by
  obtain ⟨changes, did, none⟩ := made
  refine (L.did_spares did (L.isFile_of_read h) fun c hc q hq => ?_).2.trans h
  cases (none c hc).symm.trans hq

end Layout
end FileSystem

/-! ## In memory -/

namespace MemoryStore

theorem lists_iff {m : MemoryStore} {dir p : Path} {ext : String} : fileSystem.Lists dir ext m p ↔
    isListed (below (normalize dir)) ext false p.text = true ∧ find? p.text m.files ≠ none :=
  mem_list_iff

theorem join_inj {dir dir' : Path} {file file' : String} {stem ext stem' ext' : List Char}
    (hd : EndsPlain dir.text.toList) (hd' : EndsPlain dir'.text.toList)
    (hf : IsFileName file.toList stem ext) (hf' : IsFileName file'.toList stem' ext')
    (h : normalize (dir.join file) = normalize (dir'.join file')) : file = file' := by
  have plain {name stem ext : List Char} (hn : IsFileName name stem ext) : '/' ∉ name :=
    fun hc => (hn.plain _ hc).1 rfl
  have texts := congrArg String.toList h
  rw [toList_normalize_join hd hf, toList_normalize_join hd' hf'] at texts
  exact String.toList_inj.1 (Chars.append_cons_inj texts (fun _ => plain hf') fun _ => plain hf).2

theorem smallExtension?_join {dir : Path} {file : String} {stem ext : List Char}
    (hd : EndsPlain dir.text.toList) (hf : IsFileName file.toList stem ext) :
    (Path.mk (normalize (dir.join file))).smallExtension? = some (Chars.lowerAscii ext) := by
  have own := hf.extension? (p := ⟨normalize (dir.join file)⟩) (toList_normalize_join hd hf)
  rw [Path.smallExtension?, own, Option.map_some, String.toList_ofList]

theorem smallExtension?_of_lists {m : MemoryStore} (h : m.Normal) {dir p : Path} {wanted : String}
    (hw : wanted ≠ "") (hl : fileSystem.Lists dir wanted m p) :
    (Path.mk (normalize p)).smallExtension? = some (wantedExtension wanted) := by
  obtain ⟨listed, there⟩ := lists_iff.1 hl
  rw [h.normalize_of_find? there]
  exact Path.smallExtension?_of_hasExtension hw (hasExtension_of_isListed listed)

theorem lists_of_remove {m m' : MemoryStore} (h : m.Normal) {dir p q : Path} {wanted : String}
    (hr : fileSystem.remove p m = (.ok (), m')) (hl : fileSystem.Lists dir wanted m' q) :
    fileSystem.Lists dir wanted m q ∧ normalize q ≠ normalize p := by
  obtain ⟨listed, there⟩ := lists_iff.1 hl
  obtain rfl : (m.remove p).2 = m' := congrArg Prod.snd hr
  rw [remove_files, find?_erase] at there
  split at there
  · exact absurd rfl there
  · rename_i apart
    refine ⟨lists_iff.2 ⟨listed, there⟩, fun same => apart ?_⟩
    rw [← same, h.normalize_of_find? there]

theorem isFile_of_read {m : MemoryStore} {p : Path} {content : Bytes} (h : m.read p = .ok content) :
    isFile p m = true := by
  refine contains_iff.2 fun absent => ?_
  rw [read, absent] at h
  cases h

theorem read_write {m m' : MemoryStore} {p : Path} {content : Bytes}
    (hw : fileSystem.write p content m = (.ok (), m')) :
    isFile p m' = true ∧ m'.read p = .ok content := by
  have files := write_ok (congrArg Prod.fst hw)
  have state : (m.write p content).2 = m' := congrArg Prod.snd hw
  have found : find? (normalize p) m'.files = some content := by
    rw [← state, files, find?_insert, if_pos rfl]
  exact ⟨contains_iff.2 (found ▸ Option.some_ne_none content), read_of_find? found⟩

theorem find?_of_does {m m' : MemoryStore} {c : StoreChange} (h : fileSystem.Does m c m')
    {name : String} (hc : ∀ q, c.target? = some q → normalize q ≠ name) :
    find? name m'.files = find? name m.files := by
  refine (Confined.of_did (P := fun n => ∃ q, c.target? = some q ∧ normalize q = n) h.did
    (List.forall_mem_singleton.2 ?_)).find name fun ⟨q, hq, hn⟩ => hc q hq hn
  cases c with
  | write p content r => exact ⟨p, rfl, rfl⟩
  | remove p r => exact ⟨p, rfl, rfl⟩
  | makeDir p r => trivial

theorem does_spares {m m' : MemoryStore} {p : Path} {c : StoreChange}
    (h : fileSystem.Does m c m') (there : isFile p m = true)
    (hc : ∀ q, c.target? = some q → normalize q ≠ normalize p) :
    isFile p m' = true ∧ m'.read p = m.read p := by
  have same := find?_of_does h hc
  refine ⟨contains_iff.2 ?_, by rw [read, read, same]⟩
  rw [same]
  exact contains_iff.1 there

/-- The file system in memory keeps its files under normalized names. -/
def layout : fileSystem.Layout where
  Sound := Normal
  keeps := ⟨fun p content _ h => h.write p content, fun p _ h => h.remove p,
    fun p _ h => h.makeDir p⟩
  Place := String
  place := normalize
  extension? name := (Path.mk name).smallExtension?
  name_inj := join_inj
  extension?_join := smallExtension?_join
  extension?_of_lists h := smallExtension?_of_lists h
  isDir_iff {dir wanted m} := by
    change m.isDirName (normalize dir) = true ↔ _
    by_cases hd : m.isDirName (normalize dir) = true
    · exact iff_of_true hd ⟨_, list_ok hd⟩
    · exact iff_of_false hd fun ⟨paths, hl⟩ => nomatch (list_error hd).symm.trans hl
  lists_of_remove h _ := lists_of_remove h
  isFile_of_read := isFile_of_read
  read_write := read_write
  spares := does_spares

end MemoryStore
end PluginForge
