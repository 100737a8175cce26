/-
The limits on the sources below a root. Both are decided on the listing and on the sizes alone, the
number of files first. The size is limited in whole mebibytes, so that what lies below the next one
is still allowed. A root that exceeds a limit is refused before any file is read or parsed, and higher
limits never refuse what lower ones allow.

The total size is the word of 64 bits in which the sizes are added. That is the sum of the sizes as
long as it is less than `2 ^ 64`, and its remainder beyond: sources with `2 ^ 64` bytes in all, as
files with holes can have, count like empty ones.
-/
import PluginForge.Compiler.Recorded
import PluginForge.Proofs.Discovery
import PluginForge.Store.Memory

namespace PluginForge

variable {φ : Type}

/-- The file system with another way to read files. -/
def FileSystem.reading (fs : FileSystem φ) (read : Path → φ → Except StoreError Bytes) :
    FileSystem φ :=
  { fs with read := read }

/-- The settings with other limits. -/
def Settings.limitedTo (settings : Settings) (maxFiles maxSizeMB : UInt64) : Settings :=
  { settings with maxFiles := maxFiles, maxSizeMB := maxSizeMB }

namespace Intake

variable {fs : FileSystem φ} {settings : Settings} {root : Path} {files files' : φ}
  {paths : List Path} {sizes : List Nat}

/-! ## Discovery -/

theorem discover_eq_ok_iff (listed : Listed fs settings root files paths)
    (measured : Measured fs files paths sizes) :
    (discover fs settings root files).1 = .ok paths ↔
      paths.length ≤ settings.maxFiles.toNat ∧
        sizes.sum % 2 ^ 64 < (settings.maxSizeMB.toNat + 1) * mebibyte := by
  rw [discover_of_measured listed measured, ← Nat.not_lt, ← div_mebibyte_le_iff, ← Nat.not_lt]
  split
  · simp_all
  · split <;> simp_all

/-- An accepted root is there, and its sources are listed, measured and within the limits. -/
theorem exists_of_discover_eq_ok (h : discover fs settings root files = (.ok paths, files')) :
    Listed fs settings root files paths ∧ files' = files ∧
      paths.length ≤ settings.maxFiles.toNat ∧
      ∃ total, totalSize fs files paths = .ok total ∧
        total.toNat / mebibyte ≤ settings.maxSizeMB.toNat := by
  unfold discover at h
  split at h
  · rename_i isDir
    split at h
    · cases h
    · rename_i found list
      split at h
      · cases h
      · rename_i few
        split at h
        · cases h
        · rename_i total measured
          split at h
          · cases h
          · rename_i small
            cases h
            exact ⟨⟨isDir, list⟩, rfl, Nat.not_lt.1 few, total, measured, Nat.not_lt.1 small⟩
  · split at h <;> cases h

/-- Accepting a root leaves everything as it is. -/
theorem discover_of_accepted (accepted : (discover fs settings root files).1 = .ok paths) :
    discover fs settings root files = (.ok paths, files) := by
  have found : discover fs settings root files = (.ok paths, (discover fs settings root files).2) :=
    Prod.ext accepted rfl
  rw [found, (exists_of_discover_eq_ok found).2.1]

/-- A root that is accepted is accepted under higher limits, too. -/
theorem discover_limitedTo {maxFiles maxSizeMB : UInt64} (moreFiles : settings.maxFiles ≤ maxFiles)
    (moreSize : settings.maxSizeMB ≤ maxSizeMB)
    (h : discover fs settings root files = (.ok paths, files')) :
    discover fs (settings.limitedTo maxFiles maxSizeMB) root files = (.ok paths, files') := by
  obtain ⟨listed, rfl, few, total, measured, small⟩ := exists_of_discover_eq_ok h
  have listed' : Listed fs (settings.limitedTo maxFiles maxSizeMB) root files' paths :=
    ⟨listed.isDir, listed.list⟩
  have few' : ¬ maxFiles.toNat < paths.length :=
    Nat.not_lt.2 (Nat.le_trans few (UInt64.le_iff_toNat_le.1 moreFiles))
  have small' : ¬ maxSizeMB.toNat < total.toNat / mebibyte :=
    Nat.not_lt.2 (Nat.le_trans small (UInt64.le_iff_toNat_le.1 moreSize))
  rw [listed'.discover, measured]
  exact (if_neg few').trans (if_neg small')

/-! ## Refused before reading -/

/-- The intake ends in an error with no file read and the compiler not asked: however files are read
and whatever the compiler would answer, the error is the same, nothing has changed, and there is no
call on record. -/
def RefusedUnread (fs : FileSystem φ) (settings : Settings) (root : Path) (files : φ)
    (err : IntakeError) : Prop :=
  ∀ (read : Path → φ → Except StoreError Bytes) {σ ρ : Type} (service : CompileService σ ρ) (s : σ),
    ingest (fs.reading read) service.recorded settings root files (.start s) =
      (.error err, files, .start s)

theorem refusedUnread_of_discover {err : IntakeError}
    (h : discover fs settings root files = (.error err, files)) :
    RefusedUnread fs settings root files err := by
  intro read σ ρ service s
  have refused : discover (fs.reading read) settings root files = (.error err, files) := h
  unfold ingest
  rw [refused]

/-! ## The limits -/

/-- The limits decide by this total size. Sources are accepted if and only if there are at most as many
as allowed and the total is below the first mebibyte that is not allowed. Too many files are told
first, and then a total that is too large, in whole mebibytes; either way nothing has been read or
parsed. -/
structure LimitedBy (fs : FileSystem φ) (settings : Settings) (root : Path) (files : φ)
    (paths : List Path) (total : Nat) : Prop where
  accepted : (discover fs settings root files).1 = .ok paths ↔
    paths.length ≤ settings.maxFiles.toNat ∧ total < (settings.maxSizeMB.toNat + 1) * 2 ^ 20
  tooMany : settings.maxFiles.toNat < paths.length →
    (discover fs settings root files).1 =
        .error (.tooManyFiles paths.length settings.maxFiles.toNat) ∧
      RefusedUnread fs settings root files (.tooManyFiles paths.length settings.maxFiles.toNat)
  tooLarge : paths.length ≤ settings.maxFiles.toNat →
    (settings.maxSizeMB.toNat + 1) * 2 ^ 20 ≤ total →
    (discover fs settings root files).1 =
        .error (.tooLarge (total / 2 ^ 20) settings.maxSizeMB.toNat) ∧
      RefusedUnread fs settings root files
        (.tooLarge (total / 2 ^ 20) settings.maxSizeMB.toNat)

theorem limitedBy_counted (listed : Listed fs settings root files paths)
    (measured : Measured fs files paths sizes) :
    LimitedBy fs settings root files paths (sizes.sum % 2 ^ 64) := by
  have decided := discover_of_measured listed measured
  refine ⟨discover_eq_ok_iff listed measured, fun many => ?_, fun few large => ?_⟩
  · rw [if_pos many] at decided
    exact ⟨congrArg Prod.fst decided, refusedUnread_of_discover decided⟩
  · have heavy : settings.maxSizeMB.toNat < sizes.sum % 2 ^ 64 / mebibyte :=
      lt_div_mebibyte_iff.2 large
    rw [if_neg (Nat.not_lt.2 few), if_pos heavy] at decided
    exact ⟨congrArg Prod.fst decided, refusedUnread_of_discover decided⟩

/-- A source directory with a source of `n` blanks and one of a single blank. -/
def blankSources (n : Nat) : MemoryStore where
  files := [("src/a.cs", List.replicate n 0x20), ("src/b.cs", [0x20])]
  dirs := []

-- A listing reads no file, so that it is computed for small files.
theorem listed_blankSources (maxFiles maxSizeMB : UInt64) (n : Nat) :
    Listed MemoryStore.fileSystem (Settings.standard.limitedTo maxFiles maxSizeMB) ⟨"src"⟩
      (blankSources n) [⟨"src/a.cs"⟩, ⟨"src/b.cs"⟩] := by
  have isDir : MemoryStore.fileSystem.isDir ⟨"src"⟩ (blankSources n) =
      MemoryStore.fileSystem.isDir ⟨"src"⟩ (blankSources 0) := rfl
  have list : MemoryStore.fileSystem.list ⟨"src"⟩ sourceExtension true (blankSources n) =
      MemoryStore.fileSystem.list ⟨"src"⟩ sourceExtension true (blankSources 0) := rfl
  refine ⟨isDir.trans ?_, list.trans ?_⟩ <;> decide +kernel

theorem measured_blankSources (n : Nat) :
    Measured MemoryStore.fileSystem (blankSources n) [⟨"src/a.cs"⟩, ⟨"src/b.cs"⟩] [n, 1] := by
  have first : MemoryStore.normalize ⟨"src/a.cs"⟩ = "src/a.cs" := by decide +kernel
  have second : MemoryStore.normalize ⟨"src/b.cs"⟩ = "src/b.cs" := by decide +kernel
  refine .cons ?_ (.cons ?_ .nil)
  · simp [MemoryStore.fileSystem, MemoryStore.size, MemoryStore.read, first, MemoryStore.find?,
      blankSources, Except.map]
  · simp [MemoryStore.fileSystem, MemoryStore.size, MemoryStore.read, second, MemoryStore.find?,
      blankSources, Except.map]

end Intake
end PluginForge
