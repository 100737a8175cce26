/-
The script files of a directory, compiled one after the other. Each turn leaves the shelf as it is or
puts the file's script under its name, and changes nothing under other keys; so for each key the last
file counts that was compiled (`lastNamed`), and one that comes before it under the same key is lost.
-/
import PluginForge.Proofs.Accounting
import PluginForge.Proofs.Layout
import PluginForge.Proofs.ScriptExchange
import PluginForge.Proofs.Shelf

namespace PluginForge

variable {φ σ ρ : Type}

/-- A summary with one more file. -/
def BatchSummary.count (summary : BatchSummary) (compiled : Bool) : BatchSummary :=
  if compiled then ⟨summary.total + 1, summary.succeeded + 1, summary.failed⟩
  else ⟨summary.total + 1, summary.succeeded, summary.failed + 1⟩

namespace Engine

variable (e : Engine φ σ ρ)

theorem compileScript_files (name source : String) (imports : List String) (s : EngineState φ σ ρ) :
    (e.compileScript name source imports s).2.files = (e.takeReferences s).2.files := by
  unfold compileScript
  generalize e.takeReferences s = r
  obtain ⟨r, s'⟩ := r
  cases r <;> rfl

/-! ## Files while scripts are compiled -/

theorem takeReferences_makesDirs (s : EngineState φ σ ρ) :
    e.store.MakesDirs s.files (e.takeReferences s).2.files :=
  Reference.getOrResolve_makesDirs e.settings e.roots s.references s.files

theorem precompile_makesDirs (name source : String) (imports : List String)
    (s : EngineState φ σ ρ) :
    e.store.MakesDirs s.files (e.precompile name source imports s).2.files := by
  have made : e.store.MakesDirs s.files (e.compileScript name source imports s).2.files := by
    rw [compileScript_files]
    exact e.takeReferences_makesDirs s
  unfold precompile
  generalize e.compileScript name source imports s = r at made ⊢
  obtain ⟨r, s'⟩ := r
  dsimp only
  split
  · exact .refl
  · cases r <;> exact made

theorem precompileFiles_makesDirs (imports : List String) (summary : BatchSummary)
    (paths : List Path) (s : EngineState φ σ ρ) :
    e.store.MakesDirs s.files (e.precompileFiles imports summary paths s).2.files := by
  induction paths generalizing summary s with
  | nil => exact .refl
  | cons p rest ih =>
    unfold precompileFiles
    cases p.stem? with
    | none => exact ih _ s
    | some name =>
      cases e.readScript p s.files with
      | error err => exact ih _ s
      | ok source =>
        have made := e.precompile_makesDirs name source imports s
        dsimp only
        generalize e.precompile name source imports s = r at made ⊢
        obtain ⟨r, s'⟩ := r
        cases r <;> exact made.trans (ih _ s')

variable {e} in
theorem readScript_of_makesDirs (L : e.store.Layout) {p : Path} {files files' : φ}
    {source : String} (made : e.store.MakesDirs files files')
    (h : e.readScript p files = .ok source) : e.readScript p files' = .ok source := by
  unfold readScript at h ⊢
  cases hr : e.store.read p files with
  | error err => rw [hr] at h; cases h
  | ok bytes =>
    rw [L.read_of_makesDirs made hr, ← h, hr]

/-! ## One file -/

/-- A shelf has under a name what was compiled from the text of a file, as it is read in a state of the
file system. -/
def HoldsFile (imports : List String) (p : Path) (files : φ) (name : String)
    (shelf : Script.Shelf ρ) : Prop :=
  ∃ source, e.readScript p files = .ok source ∧
    shelf.holds name (Script.contentHash source imports) = true

/-- Whether the turn of a file counts it as compiled. -/
def countsCompiled (imports : List String) (p : Path) (s : EngineState φ σ ρ) : Bool :=
  (e.precompileFiles imports ⟨0, 0, 0⟩ [p] s).1.succeeded == 1

/-- The state after the turn of a file. -/
def afterFile (imports : List String) (p : Path) (s : EngineState φ σ ρ) : EngineState φ σ ρ :=
  (e.precompileFiles imports ⟨0, 0, 0⟩ [p] s).2

/-- What the turn of one file does. It counts as compiled and the shelf has its script then, with
everything under other keys as before; or it does not, and the shelf is as before. -/
inductive Turn (imports : List String) (p : Path) (s : EngineState φ σ ρ) :
    Bool → EngineState φ σ ρ → Prop
  | compiled {s' : EngineState φ σ ρ} (stem : p.stem? = some (scriptName p))
      (holds : e.HoldsFile imports p s.files (scriptName p) s'.scripts)
      (others : ∀ name, Script.key (scriptName p) ≠ Script.key name →
        s'.scripts.find? name = s.scripts.find? name) : Turn imports p s true s'
  | failed {s' : EngineState φ σ ρ} (kept : s'.scripts = s.scripts) : Turn imports p s false s'

theorem holdsFile_of_precompile {imports : List String} {p : Path} {source : String}
    {s : EngineState φ σ ρ} {status : PrecompileStatus} (read : e.readScript p s.files = .ok source)
    (h : (e.precompile (scriptName p) source imports s).1 = .ok status) :
    let shelf := (e.precompile (scriptName p) source imports s).2.scripts
    e.HoldsFile imports p s.files (scriptName p) shelf ∧
      ∀ name, Script.key (scriptName p) ≠ Script.key name →
        shelf.find? name = s.scripts.find? name := by
  have course := e.precompile_precompiling (scriptName p) source imports s
  rw [h] at course
  generalize e.precompileExchanges (scriptName p) source imports s = asked,
    (e.precompile (scriptName p) source imports s).2.scripts = shelf at course ⊢
  cases course with
  | cached held => exact ⟨⟨source, read, held⟩, fun _ _ => rfl⟩
  | @compiled asked code =>
    let entry : Script.Entry ρ := ⟨scriptName p, Script.contentHash source imports, code⟩
    refine ⟨⟨source, read, ?_⟩, fun name other => ?_⟩
    · exact (Script.Shelf.holds_iff _ _ _).2 ⟨entry, Script.Shelf.find?_insert_self _ entry, rfl⟩
    · exact (Script.Shelf.find?_insert _ name entry).trans (if_neg other)

theorem scripts_of_precompile_error {name source : String} {imports : List String}
    {s : EngineState φ σ ρ} {err : ScriptError}
    (h : (e.precompile name source imports s).1 = .error err) :
    (e.precompile name source imports s).2.scripts = s.scripts := by
  have course := e.precompile_precompiling name source imports s
  rw [h] at course
  generalize e.precompileExchanges name source imports s = asked,
    (e.precompile name source imports s).2.scripts = shelf at course ⊢
  cases course
  rfl

theorem turn (imports : List String) (p : Path) (s : EngineState φ σ ρ) :
    e.Turn imports p s (e.countsCompiled imports p s) (e.afterFile imports p s) := by
  unfold countsCompiled afterFile precompileFiles
  cases hn : p.stem? with
  | none => exact .failed rfl
  | some name =>
    cases hr : e.readScript p s.files with
    | error err => exact .failed rfl
    | ok source =>
      have stem : scriptName p = name := by rw [scriptName, hn, Option.getD_some]
      subst stem
      dsimp only
      have ok {status : PrecompileStatus}
          (h : (e.precompile (scriptName p) source imports s).1 = .ok status) :=
        e.holdsFile_of_precompile hr h
      have error {err : ScriptError}
          (h : (e.precompile (scriptName p) source imports s).1 = .error err) :=
        e.scripts_of_precompile_error h
      generalize e.precompile (scriptName p) source imports s = r at ok error ⊢
      obtain ⟨r, s'⟩ := r
      cases r with
      | ok status => exact .compiled hn (ok rfl).1 (ok rfl).2
      | error err => exact .failed (error rfl)

theorem precompileFiles_cons (imports : List String) (summary : BatchSummary) (p : Path)
    (rest : List Path) (s : EngineState φ σ ρ) :
    e.precompileFiles imports summary (p :: rest) s =
      e.precompileFiles imports (summary.count (e.countsCompiled imports p s)) rest
        (e.afterFile imports p s) := by
  simp only [countsCompiled, afterFile, precompileFiles]
  cases p.stem? with
  | none => rfl
  | some name =>
    cases e.readScript p s.files with
    | error err => rfl
    | ok source =>
      dsimp only
      rcases e.precompile name source imports s with ⟨r, s'⟩
      cases r <;> rfl

/-! ## All files -/

/-- Those of some files that are counted as compiled, each in its turn. -/
def compiledFiles (imports : List String) : List Path → EngineState φ σ ρ → List Path
  | [], _ => []
  | p :: rest, s =>
    let later := compiledFiles imports rest (e.afterFile imports p s)
    if e.countsCompiled imports p s then p :: later else later

/-- The last of some files whose name has the key of a name. -/
def lastNamed (name : String) (paths : List Path) : Option Path :=
  paths.reverse.find? fun p => Script.key (scriptName p) = Script.key name

theorem lastNamed_cons (name : String) (p : Path) (paths : List Path) :
    lastNamed name (p :: paths) = (lastNamed name paths).or
      (if Script.key (scriptName p) = Script.key name then some p else none) := by
  rw [lastNamed, List.reverse_cons, List.find?_append, List.find?_singleton]
  simp only [decide_eq_true_eq]
  rfl

/-- Where there is a file with a key, there is a last one. -/
theorem exists_lastNamed {paths : List Path} {p : Path} (h : p ∈ paths) :
    ∃ last, lastNamed (scriptName p) paths = some last :=
  Option.isSome_iff_exists.1 (List.find?_isSome.2 ⟨p, List.mem_reverse.2 h, decide_eq_true rfl⟩)

section

variable (imports : List String) (paths : List Path)

theorem compiledFiles_sublist (s : EngineState φ σ ρ) :
    (e.compiledFiles imports paths s).Sublist paths := by
  induction paths generalizing s with
  | nil => exact .slnil
  | cons p rest ih =>
    unfold compiledFiles
    dsimp only
    split
    · exact (ih _).cons_cons p
    · exact (ih _).cons p

/-- Every file is counted, as compiled or as failed. -/
theorem precompileFiles_counts (summary : BatchSummary) (s : EngineState φ σ ρ) :
    let after := (e.precompileFiles imports summary paths s).1
    let compiled := e.compiledFiles imports paths s
    after.total = summary.total + paths.length ∧
      after.succeeded = summary.succeeded + compiled.length ∧
      after.failed + compiled.length = summary.failed + paths.length := by
  induction paths generalizing summary s with
  | nil => exact ⟨rfl, rfl, rfl⟩
  | cons p rest ih =>
    rw [precompileFiles_cons, compiledFiles]
    cases e.countsCompiled imports p s with
    | true =>
      obtain ⟨total, succeeded, failed⟩ := ih (summary.count true) (e.afterFile imports p s)
      simp only [BatchSummary.count, if_true, List.length_cons] at total succeeded failed ⊢
      omega
    | false =>
      obtain ⟨total, succeeded, failed⟩ := ih (summary.count false) (e.afterFile imports p s)
      simp only [BatchSummary.count, Bool.false_eq_true, if_false, List.length_cons]
        at total succeeded failed ⊢
      omega

theorem stem?_of_mem_compiledFiles {p : Path} {s : EngineState φ σ ρ}
    (h : p ∈ e.compiledFiles imports paths s) : p.stem? = some (scriptName p) := by
  induction paths generalizing s with
  | nil => cases h
  | cons q rest ih =>
    have course := e.turn imports q s
    unfold compiledFiles at h
    generalize e.countsCompiled imports q s = counted at course h
    cases course with
    | compiled stem =>
      rcases List.mem_cons.1 h with rfl | h
      · exact stem
      · exact ih h
    | failed => exact ih h

/-- After all files, the shelf has under each name the script of the last compiled file with its key,
and if there is none, what it had before. -/
theorem precompileFiles_shelf {e : Engine φ σ ρ} (L : e.store.Layout) (summary : BatchSummary)
    (s : EngineState φ σ ρ) (name : String) :
    let s' := (e.precompileFiles imports summary paths s).2
    let last := lastNamed name (e.compiledFiles imports paths s)
    (∀ p, last = some p → e.HoldsFile imports p s'.files name s'.scripts) ∧
      (last = none → s'.scripts.find? name = s.scripts.find? name) := by
  induction paths generalizing summary s with
  | nil => exact ⟨fun p h => absurd h (Option.some_ne_none p).symm, fun _ => rfl⟩
  | cons p rest ih =>
    have course := e.turn imports p s
    have made := e.precompileFiles_makesDirs imports summary (p :: rest) s
    rw [precompileFiles_cons] at made ⊢
    rw [compiledFiles]
    specialize ih (summary.count (e.countsCompiled imports p s)) (e.afterFile imports p s)
    generalize e.countsCompiled imports p s = counted, e.afterFile imports p s = turned
      at course made ih ⊢
    generalize (e.precompileFiles imports (summary.count counted) rest turned).2 = s',
      e.compiledFiles imports rest turned = later at made ih ⊢
    obtain ⟨found, absent⟩ := ih
    cases course with
    | failed kept => exact ⟨found, fun h => (absent h).trans (by rw [kept])⟩
    | compiled stem holds others =>
      obtain ⟨source, read, held⟩ := holds
      rw [if_pos rfl, lastNamed_cons]
      cases hl : lastNamed name later with
      | some last =>
        exact ⟨fun q hq => found q (hl.trans hq), fun h => absurd h (Option.some_ne_none last)⟩
      | none =>
        specialize absent hl
        by_cases hk : Script.key (scriptName p) = Script.key name
        · refine ⟨fun q hq => ?_, fun h => absurd h (by simp [hk])⟩
          obtain rfl : p = q := by simpa [hk] using hq
          refine ⟨source, readScript_of_makesDirs L made read, ?_⟩
          rw [Script.Shelf.holds, Script.Shelf.find?_of_key_eq _ _ hk, ← absent] at held
          exact held
        · exact ⟨fun q hq => absurd hq (by simp [hk]), fun _ => absent.trans (others name hk)⟩

end

/-- Compiling the script files of a directory returns how many there are, each counted as compiled or
as failed. For every file that is counted as compiled, the shelf has under the file's stem what was
compiled from the last of these files whose stem has the same key. No file is changed. -/
theorem precompileDir_keepsLast {e : Engine φ σ ρ} (L : e.store.Layout) {dir : Path}
    {paths : List Path} (imports : List String) {s : EngineState φ σ ρ}
    (there : e.store.isDir dir s.files = true)
    (listed : e.store.list dir scriptExtension true s.files = .ok paths) :
    ∃ summary s', e.precompileDir dir imports s = (.ok summary, s') ∧
      summary.total = paths.length ∧ summary.total = summary.succeeded + summary.failed ∧
      summary.succeeded = (e.compiledFiles imports paths s).length ∧
      (e.compiledFiles imports paths s).Sublist paths ∧ e.store.MakesDirs s.files s'.files ∧
      ∀ p ∈ e.compiledFiles imports paths s, ∃ name last bytes entry,
        p.stem? = some name ∧ lastNamed name (e.compiledFiles imports paths s) = some last ∧
        e.store.read last s'.files = .ok bytes ∧ s'.scripts.find? name = some entry ∧
        entry.contentHash = Script.contentHash (Encoding.decode bytes).1 imports := by
  obtain ⟨total, succeeded, failed⟩ := e.precompileFiles_counts imports paths ⟨0, 0, 0⟩ s
  refine ⟨(e.precompileFiles imports ⟨0, 0, 0⟩ paths s).1,
    (e.precompileFiles imports ⟨0, 0, 0⟩ paths s).2, ?returned, ?total, ?sum, ?succeeded,
    e.compiledFiles_sublist imports paths s, e.precompileFiles_makesDirs imports _ paths s,
    fun p hp => ?kept⟩
  case returned => simp only [precompileDir, there, listed, if_true]
  case total => simpa using total
  case sum => simp only at total succeeded failed; omega
  case succeeded => simpa using succeeded
  case kept =>
    obtain ⟨last, hl⟩ := exists_lastNamed hp
    obtain ⟨source, read, held⟩ := (precompileFiles_shelf imports paths L ⟨0, 0, 0⟩ s _).1 last hl
    obtain ⟨entry, found, hash⟩ := (Script.Shelf.holds_iff _ _ _).1 held
    unfold readScript at read
    cases hr : e.store.read last (e.precompileFiles imports ⟨0, 0, 0⟩ paths s).2.files with
    | error err => rw [hr] at read; cases read
    | ok bytes =>
      rw [hr] at read
      cases read
      exact ⟨_, last, bytes, entry, e.stem?_of_mem_compiledFiles imports paths hp, hl, hr,
        found, hash⟩

/-- A directory with two scripts whose names differ in case alone. -/
def greetFolders : MemoryStore where
  files := [
    ("w/assemblies/a.dll", standInLibrary),
    ("w/scripts/a/greet.csx", Encoding.toUtf8 "return 1;"),
    ("w/scripts/b/Greet.csx", Encoding.toUtf8 "return 2;")]
  dirs := []

theorem compiledFiles_greetFolders :
    inMemory.compiledFiles [] [⟨"w/scripts/a/greet.csx"⟩, ⟨"w/scripts/b/Greet.csx"⟩]
      (.start greetFolders []) = [⟨"w/scripts/a/greet.csx"⟩, ⟨"w/scripts/b/Greet.csx"⟩] := by
  decide +kernel

theorem list_greetFolders :
    inMemory.store.list ⟨"w/scripts"⟩ scriptExtension true greetFolders =
      .ok [⟨"w/scripts/a/greet.csx"⟩, ⟨"w/scripts/b/Greet.csx"⟩] := by
  decide +kernel

theorem precompileDir_keepsLast_two_spellings :
    ∃ s' entry, inMemory.precompileDir ⟨"w/scripts"⟩ [] (.start greetFolders []) =
        (.ok ⟨2, 2, 0⟩, s') ∧
      s'.scripts.find? "greet" = some entry ∧
      entry.contentHash = Script.contentHash "return 2;" [] := by
  obtain ⟨summary, s', returned, total, sum, succeeded, -, made, kept⟩ :=
    precompileDir_keepsLast (e := inMemory) (s := .start greetFolders []) MemoryStore.layout []
      (by decide +kernel) list_greetFolders
  rw [compiledFiles_greetFolders] at succeeded kept
  obtain ⟨name, last, bytes, entry, stem, named, read, found, hash⟩ := kept _ List.mem_cons_self
  obtain rfl : "greet" = name := Option.some.inj ((by decide : _ = _).trans stem)
  obtain rfl : ⟨"w/scripts/b/Greet.csx"⟩ = last :=
    Option.some.inj ((by decide +kernel : _ = _).trans named)
  have content : inMemory.store.read ⟨"w/scripts/b/Greet.csx"⟩ greetFolders =
      .ok (Encoding.toUtf8 "return 2;") := by
    decide +kernel
  obtain rfl : Encoding.toUtf8 "return 2;" = bytes :=
    Except.ok.inj ((MemoryStore.layout.read_of_makesDirs made content).symm.trans read)
  have counts : summary = ⟨2, 2, 0⟩ := by
    obtain ⟨total', succeeded', failed'⟩ := summary
    simp only [List.length_cons, List.length_nil] at total sum succeeded
    simp only [BatchSummary.mk.injEq]
    omega
  exact ⟨s', entry, counts ▸ returned, found, hash⟩

/-- For every file that is counted as compiled the shelf has, under the file's stem, what was compiled
from that file. -/
def KeepsEach (e : Engine φ σ ρ) : Prop :=
  ∀ (dir : Path) (paths : List Path) (imports : List String) (s : EngineState φ σ ρ),
    e.store.isDir dir s.files = true →
    e.store.list dir scriptExtension true s.files = .ok paths →
    ∀ p ∈ e.compiledFiles imports paths s, ∃ name bytes entry,
      p.stem? = some name ∧ e.store.read p s.files = .ok bytes ∧
      (e.precompileDir dir imports s).2.scripts.find? name = some entry ∧
      entry.contentHash = Script.contentHash (Encoding.decode bytes).1 imports

/-- Of two scripts whose names have the same key, the first is lost. -/
theorem not_keepsEach : ¬ inMemory.KeepsEach := by
  intro h
  have kept := h ⟨"w/scripts"⟩ _ [] (.start greetFolders []) (by decide +kernel) list_greetFolders
  rw [compiledFiles_greetFolders] at kept
  obtain ⟨name, bytes, entry, stem, read, found, hash⟩ := kept _ List.mem_cons_self
  obtain ⟨name', bytes', entry', stem', read', found', hash'⟩ :=
    kept _ (List.mem_cons_of_mem _ List.mem_cons_self)
  obtain rfl : "greet" = name := Option.some.inj ((by decide : _ = _).trans stem)
  obtain rfl : "Greet" = name' := Option.some.inj ((by decide : _ = _).trans stem')
  obtain rfl : Encoding.toUtf8 "return 1;" = bytes :=
    Except.ok.inj ((by decide +kernel : _ = _).trans read)
  obtain rfl : Encoding.toUtf8 "return 2;" = bytes' :=
    Except.ok.inj ((by decide +kernel : _ = _).trans read')
  have same : Script.key "Greet" = Script.key "greet" := by decide
  rw [Script.Shelf.find?_of_key_eq _ _ same, found] at found'
  cases found'
  exact absurd (hash.symm.trans hash') (by decide +kernel)

end Engine
end PluginForge
