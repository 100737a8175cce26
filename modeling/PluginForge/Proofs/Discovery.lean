/-
How the sources below a root are found. Three things keep an intake from starting: the root was
not there and has been made, the file system fails on the root, or a limit is exceeded. Each is said
in terms of the file system alone, and each gives its own error of `discover`.

Sizes are added in a word of 64 bits, without a check. What counts against the limit is therefore
the sum modulo `2 ^ 64`: the sum itself as long as it fits, and less than it otherwise.
-/
import Mathlib.Algebra.GroupWithZero.Nat
import Mathlib.Data.List.Forall2
import PluginForge.Intake.Ingest

namespace PluginForge.Intake

variable {φ σ ρ : Type} {fs : FileSystem φ} {settings : Settings} {root : Path} {files : φ}
  {paths : List Path}

/-! ## The size in whole mebibytes -/

theorem div_mebibyte_le_iff {total limit : Nat} :
    total / mebibyte ≤ limit ↔ total < (limit + 1) * mebibyte := by
  rw [← Nat.lt_add_one_iff, Nat.div_lt_iff_lt_mul (by decide)]

theorem lt_div_mebibyte_iff {total limit : Nat} :
    limit < total / mebibyte ↔ (limit + 1) * mebibyte ≤ total := by
  rw [← Nat.not_le, div_mebibyte_le_iff, Nat.not_lt]

/-! ## Measuring -/

/-- The files have these sizes. -/
def Measured (fs : FileSystem φ) (files : φ) (paths : List Path) (sizes : List Nat) : Prop :=
  List.Forall₂ (fun p n => fs.size p files = .ok n) paths sizes

theorem measured_or_fails (fs : FileSystem φ) (files : φ) (paths : List Path) :
    (∃ sizes, Measured fs files paths sizes) ∨ ∃ p ∈ paths, ∃ e, fs.size p files = .error e := by
  induction paths with
  | nil => exact .inl ⟨[], .nil⟩
  | cons p rest ih =>
    cases hp : fs.size p files with
    | error e => exact .inr ⟨p, List.mem_cons_self, e, hp⟩
    | ok n =>
      rcases ih with ⟨sizes, hs⟩ | ⟨q, hq, e, he⟩
      · exact .inl ⟨n :: sizes, .cons hp hs⟩
      · exact .inr ⟨q, List.mem_cons_of_mem _ hq, e, he⟩

/-- The total size behind a total so far. -/
def totalFrom (fs : FileSystem φ) (files : φ) (total : UInt64) (paths : List Path) :
    Except StoreError UInt64 :=
  paths.foldlM (fun total p => (fs.size p files).map (total + .ofNat ·)) total

theorem totalFrom_cons (total : UInt64) (p : Path) (paths : List Path) :
    totalFrom fs files total (p :: paths) =
      match fs.size p files with
      | .ok n => totalFrom fs files (total + .ofNat n) paths
      | .error e => .error e := by
  rw [totalFrom, List.foldlM_cons]
  cases fs.size p files <;> rfl

/-- Sizes that are added one by one make the same word as their sum. -/
theorem Measured.totalFrom {sizes : List Nat} (h : Measured fs files paths sizes)
    (total : UInt64) : totalFrom fs files total paths = .ok (total + .ofNat sizes.sum) := by
  induction h generalizing total with
  | nil => exact congrArg Except.ok (UInt64.add_zero total).symm
  | cons hp _ ih =>
    rw [totalFrom_cons, hp, List.sum_cons, UInt64.ofNat_add, ← UInt64.add_assoc]
    exact ih _

theorem Measured.totalSize {sizes : List Nat} (h : Measured fs files paths sizes) :
    totalSize fs files paths = .ok (.ofNat sizes.sum) := by
  have ht := h.totalFrom 0
  rwa [UInt64.zero_add] at ht

theorem totalFrom_eq_error {p : Path} {e : StoreError} (hp : p ∈ paths)
    (h : fs.size p files = .error e) (total : UInt64) :
    ∃ e', totalFrom fs files total paths = .error e' := by
  induction paths generalizing total with
  | nil => cases hp
  | cons q rest ih =>
    rw [totalFrom_cons]
    rcases List.mem_cons.1 hp with rfl | hp
    · exact ⟨e, by rw [h]⟩
    · cases fs.size q files with
      | error e' => exact ⟨e', rfl⟩
      | ok n => exact ih hp (total + .ofNat n)

/-! ## The ways not to start -/

section

variable (fs : FileSystem φ) (settings : Settings) (root : Path) (files : φ)

/-- The sources that are listed below a root that is there. -/
structure Listed (paths : List Path) : Prop where
  isDir : fs.isDir root files = true
  list : fs.list root sourceExtension settings.includeSubdirectories files = .ok paths

/-- The root is not there and gets made. -/
structure RootMade : Prop where
  missing : fs.isDir root files = false
  made : (fs.makeDir root files).1 = .ok ()

/-- The root cannot be made, listed or measured. It is measured unless it has too many files. -/
inductive RootFails : Prop
  | make {e} (missing : fs.isDir root files = false) (h : (fs.makeDir root files).1 = .error e)
  | list {e} (isDir : fs.isDir root files = true)
      (h : fs.list root sourceExtension settings.includeSubdirectories files = .error e)
  | measure {paths : List Path} {p e} (listed : Listed fs settings root files paths)
      (few : paths.length ≤ settings.maxFiles.toNat) (hp : p ∈ paths)
      (h : fs.size p files = .error e)

/-- The sources are too many, or they are too large by the word in which their sizes are added. -/
inductive CapExceeded : Prop
  | count {paths : List Path} (listed : Listed fs settings root files paths)
      (h : settings.maxFiles.toNat < paths.length)
  | size {paths : List Path} {sizes} (listed : Listed fs settings root files paths)
      (measured : Measured fs files paths sizes)
      (h : settings.maxSizeMB.toNat < sizes.sum % 2 ^ 64 / mebibyte)

end

theorem RootMade.discover (h : RootMade fs root files) :
    (discover fs settings root files).1 = .error (.rootCreated root) := by
  unfold Intake.discover
  rw [h.missing, if_neg Bool.false_ne_true]
  have hm := h.made
  generalize fs.makeDir root files = r at hm ⊢
  obtain ⟨r, files'⟩ := r
  cases hm
  rfl

theorem Listed.discover (h : Listed fs settings root files paths) :
    discover fs settings root files =
      if settings.maxFiles.toNat < paths.length then
        (.error (.tooManyFiles paths.length settings.maxFiles.toNat), files)
      else
        match totalSize fs files paths with
        | .error e => (.error (.store e), files)
        | .ok total =>
          if settings.maxSizeMB.toNat < total.toNat / mebibyte then
            (.error (.tooLarge (total.toNat / mebibyte) settings.maxSizeMB.toNat), files)
          else (.ok paths, files) := by
  have hl := h.list
  unfold Intake.discover
  generalize fs.list root sourceExtension settings.includeSubdirectories files = r at hl ⊢
  subst hl
  exact if_pos h.isDir

/-- What the limits make of sources that are listed and measured. -/
theorem discover_of_measured {sizes : List Nat} (listed : Listed fs settings root files paths)
    (measured : Measured fs files paths sizes) :
    discover fs settings root files =
      if settings.maxFiles.toNat < paths.length then
        (.error (.tooManyFiles paths.length settings.maxFiles.toNat), files)
      else if settings.maxSizeMB.toNat < sizes.sum % 2 ^ 64 / mebibyte then
        (.error (.tooLarge (sizes.sum % 2 ^ 64 / mebibyte) settings.maxSizeMB.toNat), files)
      else (.ok paths, files) := by
  rw [listed.discover, measured.totalSize, ← UInt64.toNat_ofNat']

theorem RootFails.discover (h : RootFails fs settings root files) :
    ∃ e, (discover fs settings root files).1 = .error (.store e) := by
  cases h with
  | @make e missing h =>
    refine ⟨e, ?_⟩
    unfold Intake.discover
    rw [missing, if_neg Bool.false_ne_true]
    generalize fs.makeDir root files = r at h ⊢
    obtain ⟨r, files'⟩ := r
    cases h
    rfl
  | @list e isDir h =>
    refine ⟨e, ?_⟩
    unfold Intake.discover
    rw [isDir, if_pos rfl, h]
  | measure listed few hp h =>
    obtain ⟨e', he⟩ : ∃ e', totalSize fs files _ = .error e' := totalFrom_eq_error hp h 0
    exact ⟨e', by rw [listed.discover, if_neg (Nat.not_lt.2 few), he]⟩

/-- The error of a root whose sources exceed a limit. -/
def IsCapError : IntakeError → Prop
  | .tooManyFiles .. | .tooLarge .. => True
  | _ => False

theorem CapExceeded.discover (h : CapExceeded fs settings root files) :
    ∃ e, (discover fs settings root files).1 = .error e ∧ IsCapError e := by
  cases h with
  | count listed h =>
    rw [listed.discover, if_pos h]
    exact ⟨_, rfl, trivial⟩
  | size listed measured h =>
    rw [discover_of_measured listed measured, if_pos h]
    split <;> exact ⟨_, rfl, trivial⟩

/-- Sources whose total size fits its word exceed a limit when their number or that size does. -/
theorem capExceeded_iff_of_lt {sizes : List Nat} (listed : Listed fs settings root files paths)
    (measured : Measured fs files paths sizes) (fits : sizes.sum < 2 ^ 64) :
    CapExceeded fs settings root files ↔
      settings.maxFiles.toNat < paths.length ∨
        (settings.maxSizeMB.toNat + 1) * mebibyte ≤ sizes.sum := by
  rw [← lt_div_mebibyte_iff]
  have counted : sizes.sum % 2 ^ 64 = sizes.sum := Nat.mod_eq_of_lt fits
  constructor
  · intro exceeded
    obtain ⟨e, refused, -⟩ := exceeded.discover
    by_contra within
    obtain ⟨few, small⟩ := not_or.1 within
    rw [discover_of_measured listed measured, counted, if_neg few, if_neg small] at refused
    cases refused
  · rintro (many | large)
    · exact .count listed many
    · exact .size listed measured (by rwa [counted])

/-- An intake starts with the listed files, or there is one of the three reasons why not. -/
theorem discover_cases (fs : FileSystem φ) (settings : Settings) (root : Path) (files : φ) :
    RootMade fs root files ∨ RootFails fs settings root files ∨
      CapExceeded fs settings root files ∨
      ∃ paths, discover fs settings root files = (.ok paths, files) := by
  cases hd : fs.isDir root files with
  | false =>
    cases hm : (fs.makeDir root files).1 with
    | ok u => exact .inl ⟨hd, hm⟩
    | error e => exact .inr (.inl (.make hd hm))
  | true =>
    cases hl : fs.list root sourceExtension settings.includeSubdirectories files with
    | error e => exact .inr (.inl (.list hd hl))
    | ok paths =>
      have listed : Listed fs settings root files paths := ⟨hd, hl⟩
      rcases Nat.lt_or_ge settings.maxFiles.toNat paths.length with hc | hc
      · exact .inr (.inr (.inl (.count listed hc)))
      rcases measured_or_fails fs files paths with ⟨sizes, hs⟩ | ⟨p, hp, e, he⟩
      · rcases Nat.lt_or_ge settings.maxSizeMB.toNat (sizes.sum % 2 ^ 64 / mebibyte) with ht | ht
        · exact .inr (.inr (.inl (.size listed hs ht)))
        · refine .inr (.inr (.inr ⟨paths, ?_⟩))
          rw [discover_of_measured listed hs, if_neg (Nat.not_lt.2 hc), if_neg (Nat.not_lt.2 ht)]
      · exact .inr (.inl (.measure listed hc hp he))

/-- The compiler has no part in an intake that does not start. -/
theorem discover_ne_service {err : IntakeError} {files' : φ}
    (h : discover fs settings root files = (.error err, files')) (e : ServiceError) :
    err ≠ .service e := by
  rintro rfl
  have h := congrArg Prod.fst h
  rcases discover_cases fs settings root files with hd | hd | hd | ⟨paths, hd⟩
  · rw [hd.discover] at h
    cases h
  · obtain ⟨e, he⟩ := hd.discover
    rw [he] at h
    cases h
  · obtain ⟨e, he, hc⟩ := hd.discover
    rw [he] at h
    cases h
    exact hc
  · rw [hd] at h
    cases h

end PluginForge.Intake
