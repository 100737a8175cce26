/-
How builds end. A build fails as a whole only for a reason that its kind of failure names: the
engine is switched off, the source root was missing, a limit is exceeded, the file system fails on
the root, no source is left, there is nothing to reference, or the compiler ran out of memory.
Whatever else goes wrong, the build ends with a report that has an outcome for every root namespace.

`Course` says where a build ends and what its exchanges show of that. It is read off the stages that
the build goes through; that each kind of failure has its reason, and no other, is then read off its
cases.
-/
import PluginForge.Proofs.Exhaustion
import PluginForge.Proofs.References

namespace PluginForge

open Exchange

variable {φ σ ρ : Type}

/-- The build fails with a failure of this kind. -/
def FailsAs (r : Except BuildFailure BuildReport) (k : FailureKind) : Prop :=
  ∃ f, r = .error f ∧ f.kind = k

theorem failsAs_error {f : BuildFailure} {k : FailureKind} :
    FailsAs (.error f) k ↔ f.kind = k := by
  simp [FailsAs]

theorem not_failsAs_ok {report : BuildReport} {k : FailureKind} : ¬ FailsAs (.ok report) k := by
  simp [FailsAs]

instance (r : Except BuildFailure BuildReport) (k : FailureKind) : Decidable (FailsAs r k) :=
  match r with
  | .error f => decidable_of_iff (f.kind = k) failsAs_error.symm
  | .ok _ => .isFalse not_failsAs_ok

theorem CompilationGroup.mem_partition_keys {baseType : String} {units : List ParsedUnit}
    {k : String} : k ∈ (partition baseType units).map CompilationGroup.key ↔
      k ∈ units.map ParsedUnit.rootName := by
  have hg := grouped_groupBy ParsedUnit.rootName units
  have hk : (partition baseType units).map CompilationGroup.key =
      (groupBy ParsedUnit.rootName units).map Prod.fst := by
    rw [partition, List.map_map]
    rfl
  rw [hk]
  constructor
  · intro hm
    obtain ⟨g, hgm, rfl⟩ := List.mem_map.1 hm
    obtain ⟨u, hu⟩ := List.exists_mem_of_ne_nil _ (hg.nonempty g hgm)
    rw [hg.members g hgm, List.mem_filter] at hu
    exact List.mem_map.2 ⟨u, hu.1, of_decide_eq_true hu.2⟩
  · intro hm
    obtain ⟨u, hu, rfl⟩ := List.mem_map.1 hm
    exact hg.keys u hu

namespace Engine

/-! ## Stages -/

section

variable (e : Engine φ σ ρ) (root : Path) (s : EngineState φ σ ρ)

/-- The files once the output folder is cleared. -/
def cleared : φ :=
  Artifact.clean e.store e.workspace.outputDir s.files

/-- How the intake of a build ends. -/
def intake : Except IntakeError IntakeReport :=
  (Intake.ingest e.store e.service e.settings root (e.cleared s) s.service).1

/-- The references of a build whose intake ends with a report. -/
def referenceSet : Except ReferenceError (List Path) :=
  (Reference.getOrResolve e.store e.settings e.roots s.references (e.cleared s)).1

/-- Where a build ends, with the exchanges up to there and what the build comes to. -/
inductive Course : List (Exchange ρ) → Except BuildFailure BuildReport → Prop
  | disabled (off : e.settings.enabled = false) : Course [] (.error .disabled)
  | notTaken {xs err} (on : e.settings.enabled = true) (taken : e.intake root s = .error err)
      (mem : ∀ x, err = .service x → x.isOutOfMemory = true)
      (halts : Halts xs (IntakeError.ends (e.intake root s))) : Course xs (.error (.ofIntake err))
  | noUnits {xs skipped} (on : e.settings.enabled = true)
      (taken : e.intake root s = .ok ⟨[], skipped⟩) (halts : Halts xs false) :
      Course xs (.error (.noSources root skipped))
  | noReferences {xs intake} (on : e.settings.enabled = true)
      (taken : e.intake root s = .ok intake) (units : intake.units ≠ [])
      (refs : e.referenceSet s = .error .empty) (halts : Halts xs false) :
      Course xs (.error (.ofReference .empty))
  | exhausted {xs intake references err} (on : e.settings.enabled = true)
      (taken : e.intake root s = .ok intake) (units : intake.units ≠ [])
      (refs : e.referenceSet s = .ok references) (mem : err.isOutOfMemory = true)
      (halts : Halts xs true) : Course xs (.error (.ofService err))
  | reported {xs intake references outcomes} (on : e.settings.enabled = true)
      (taken : e.intake root s = .ok intake) (units : intake.units ≠ [])
      (refs : e.referenceSet s = .ok references)
      (keys : outcomes.map GroupOutcome.key =
        (CompilationGroup.partition e.settings.pluginBaseType intake.units).map
          CompilationGroup.key)
      (halts : Halts xs false) :
      Course xs (.ok ⟨intake.units.length, intake.skipped, outcomes⟩)

end

variable (e : Engine φ σ ρ) (root : Path) (clock : Nat → TimeStamp) (s : EngineState φ σ ρ)

/-- The intake of a build goes alike whether or not its exchanges are noted. -/
theorem intake_eq_traced :
    e.intake root s = (Intake.ingest e.store e.service.traced e.settings root (e.cleared s)
      (.start s.service)).1 :=
  Intake.ingest_eq_traced e.store e.settings e.service root (e.cleared s) s.service

variable {e root clock s} in
theorem Passes.course {r : Except BuildFailure BuildReport} {t : EngineState φ (Traced σ ρ) ρ}
    (h : e.traced.Passes root clock s.traceStart r t) (on : e.settings.enabled = true) :
    e.Course root s t.service.exchanges r := by
  have taken' {r : Except IntakeError IntakeReport} {files : φ} {service : Traced σ ρ}
      (taken : e.traced.intakeFrom root s.traceStart = (r, files, service)) :
      e.intake root s = r ∧ Halts service.exchanges (IntakeError.ends r) ∧
        ∀ x, r = .error (.service x) → x.isOutOfMemory = true := by
    obtain ⟨xs, hx, hh, hm⟩ := Intake.ingest_halts e.service _ _ _ _ _ taken
    have hx : service.exchanges = xs := hx
    exact ⟨(e.intake_eq_traced root s).trans (congrArg Prod.fst taken), hx ▸ hh, hm⟩
  have referenced {intake : IntakeReport} {files : φ} {service : Traced σ ρ}
      {r : Except ReferenceError (List Path)} {t : EngineState φ (Traced σ ρ) ρ}
      (taken : e.traced.intakeFrom root s.traceStart = (.ok intake, files, service))
      (refs : e.traced.takeReferences (s.traceStart.takenIn files service) = (r, t)) :
      e.referenceSet s = r := by
    obtain rfl := Intake.ingest_files taken
    exact congrArg Prod.fst refs
  cases h with
  | notTaken taken =>
    obtain ⟨hi, hh, hm⟩ := taken' taken
    exact .notTaken on hi (fun x hs => hm x (hs ▸ rfl)) (hi ▸ hh)
  | @noUnits intake _ _ taken none =>
    obtain ⟨units, skipped⟩ := intake
    obtain rfl := none
    obtain ⟨hi, hh, -⟩ := taken' taken
    exact .noUnits on hi hh
  | @noReferences _ _ _ err _ taken units refs =>
    obtain ⟨hi, hh, -⟩ := taken' taken
    cases err
    rw [service_of_takeReferences refs]
    exact .noReferences on hi units (referenced taken refs) hh
  | stopped taken units refs groups =>
    obtain ⟨hi, hh, -⟩ := taken' taken
    obtain ⟨ys, hy, hs, hm⟩ := groups.halts
    rw [hy, service_of_takeReferences refs]
    exact .exhausted on hi units (referenced taken refs) (hm _ rfl) (hh.append hs)
  | reported taken units refs groups =>
    obtain ⟨hi, hh, -⟩ := taken' taken
    obtain ⟨ys, hy, hs, -⟩ := groups.halts
    obtain ⟨runs, -, built⟩ := groups.built
    rw [hy, service_of_takeReferences refs]
    exact .reported on hi units (referenced taken refs) built.keys (hh.append hs)

theorem buildDir_course :
    e.Course root s (e.exchanges root clock s) (e.buildDir root clock s).1 := by
  cases on : e.settings.enabled with
  | true =>
    obtain ⟨t, passes, hx, -⟩ := @buildDir_passes_traced _ _ _ e root clock s on
    rw [hx]
    exact passes.course on
  | false =>
    have off : ¬ e.settings.enabled = true := Bool.eq_false_iff.1 on
    rw [exchanges_of_disabled off, buildDir, if_neg off]
    exact .disabled on

/-! ## Causes -/

variable {e root clock s}

open Intake in
theorem intake_of_discover {err : IntakeError}
    (h : (discover e.store e.settings root (e.cleared s)).1 = .error err) :
    e.intake root s = .error err := by
  unfold intake ingest
  generalize discover e.store e.settings root (e.cleared s) = d at h ⊢
  obtain ⟨d, files⟩ := d
  cases h
  rfl

open Intake in
/-- An intake that started ends early only for a failure of the compiler. -/
theorem discover_of_intake {err : IntakeError} (h : e.intake root s = .error err)
    (hs : ∀ x, err ≠ .service x) :
    (discover e.store e.settings root (e.cleared s)).1 = .error err := by
  rw [intake_eq_traced] at h
  unfold ingest at h
  generalize discover e.store e.settings root (e.cleared s) = d at h ⊢
  obtain ⟨d, files⟩ := d
  cases d with
  | error err' =>
    cases h
    rfl
  | ok paths =>
    obtain ⟨_, r, _, hr, _⟩ := ingestAll_taken e.service e.store e.settings files ⟨[], []⟩ paths
      (.start s.service)
    dsimp only at h
    rw [hr] at h
    cases r with
    | error x =>
      cases h
      exact absurd rfl (hs x)
    | ok report => cases h

open Intake in
theorem intake_cases :
    (RootMade e.store root (e.cleared s) ∧ e.intake root s = .error (.rootCreated root)) ∨
      (RootFails e.store e.settings root (e.cleared s) ∧
        ∃ x, e.intake root s = .error (.store x)) ∨
      (CapExceeded e.store e.settings root (e.cleared s) ∧
        ∃ err, e.intake root s = .error err ∧ IsCapError err) ∨
      ∀ err, e.intake root s = .error err → ∃ x, err = .service x := by
  rcases discover_cases e.store e.settings root (e.cleared s) with h | h | h | ⟨paths, hd⟩
  · exact .inl ⟨h, intake_of_discover h.discover⟩
  · obtain ⟨x, hx⟩ := h.discover
    exact .inr (.inl ⟨h, x, intake_of_discover hx⟩)
  · obtain ⟨err, he, hc⟩ := h.discover
    exact .inr (.inr (.inl ⟨h, err, intake_of_discover he, hc⟩))
  · refine .inr (.inr (.inr fun err he => ?_))
    by_contra hn
    have hn : ∀ x, err ≠ .service x := fun x hx => hn ⟨x, hx⟩
    have := discover_of_intake he hn
    rw [hd] at this
    cases this

open Intake in
theorem rootMade_iff :
    RootMade e.store root (e.cleared s) ↔
      ∃ made, e.intake root s = .error (.rootCreated made) := by
  refine ⟨fun h => ⟨root, intake_of_discover h.discover⟩, fun ⟨made, h⟩ => ?_⟩
  rcases @intake_cases _ _ _ e root s with ⟨hm, _⟩ | ⟨_, x, hx⟩ | ⟨_, err, he, hc⟩ | hs
  · exact hm
  · rw [h] at hx
    cases hx
  · rw [h] at he
    cases he
    cases hc
  · obtain ⟨x, hx⟩ := hs _ h
    cases hx

open Intake in
theorem rootFails_iff :
    RootFails e.store e.settings root (e.cleared s) ↔ ∃ x, e.intake root s = .error (.store x) := by
  refine ⟨fun h => h.discover.imp fun x hx => intake_of_discover hx, fun ⟨x, h⟩ => ?_⟩
  rcases @intake_cases _ _ _ e root s with ⟨_, hm⟩ | ⟨hf, _⟩ | ⟨_, err, he, hc⟩ | hs
  · rw [h] at hm
    cases hm
  · exact hf
  · rw [h] at he
    cases he
    cases hc
  · obtain ⟨x, hx⟩ := hs _ h
    cases hx

open Intake in
theorem capExceeded_iff :
    CapExceeded e.store e.settings root (e.cleared s) ↔
      ∃ err, e.intake root s = .error err ∧ IsCapError err := by
  refine ⟨fun h => h.discover.imp fun err he => ⟨intake_of_discover he.1, he.2⟩,
    fun ⟨err, h, hc⟩ => ?_⟩
  rcases @intake_cases _ _ _ e root s with ⟨_, hm⟩ | ⟨_, x, hx⟩ | ⟨hcap, _⟩ | hs
  · rw [h] at hm
    cases hm
    cases hc
  · rw [h] at hx
    cases hx
    cases hc
  · exact hcap
  · obtain ⟨x, rfl⟩ := hs _ h
    cases hc

/-! ## Endings -/

/-- What a build with these exchanges fails with each kind of failure for. Only an engine that is
switched on looks at its files at all, and it does so once the output folder is cleared. -/
def Cause (e : Engine φ σ ρ) (root : Path) (s : EngineState φ σ ρ) (xs : List (Exchange ρ)) :
    FailureKind → Prop
  | .inputRejected => e.settings.enabled = false ∨ e.settings.enabled = true ∧
      (Intake.RootMade e.store root (e.cleared s) ∨
        Intake.CapExceeded e.store e.settings root (e.cleared s))
  | .io => e.settings.enabled = true ∧ Intake.RootFails e.store e.settings root (e.cleared s)
  | .resourceExhausted => ∃ x ∈ xs, x.isExhausted = true
  | .noEligibleFiles => e.settings.enabled = true ∧
      ∃ intake, e.intake root s = .ok intake ∧ intake.units = []
  | .noReferences => e.settings.enabled = true ∧
      (∃ intake, e.intake root s = .ok intake ∧ intake.units ≠ []) ∧
      Reference.NoneUsable e.store e.settings e.roots s.references (e.cleared s)
  | .service => False

/-- How a build with these exchanges ends. -/
structure Ending (e : Engine φ σ ρ) (root : Path) (s : EngineState φ σ ρ) (xs : List (Exchange ρ))
    (r : Except BuildFailure BuildReport) : Prop where
  causes : ∀ k, FailsAs r k ↔ e.Cause root s xs k
  /-- Sources with less than `2 ^ 64` bytes in all are rejected just when they exceed a limit: their
  total size is the one that counts. -/
  rejected : ∀ paths sizes, e.settings.enabled = true →
    Intake.Listed e.store e.settings root (e.cleared s) paths →
    Intake.Measured e.store (e.cleared s) paths sizes → sizes.sum < 2 ^ 64 →
    (FailsAs r .inputRejected ↔ e.settings.maxFiles.toNat < paths.length ∨
      (e.settings.maxSizeMB.toNat + 1) * 2 ^ 20 ≤ sizes.sum)
  /-- Nothing is asked of the compiler once it is out of memory. -/
  last : ∀ ys x zs, xs = ys ++ x :: zs → x.isExhausted = true → zs = []
  reported : (∀ k, ¬ e.Cause root s xs k) → ∃ report intake, r = .ok report ∧
    e.intake root s = .ok intake ∧ (report.groups.map GroupOutcome.key).Nodup ∧
    ∀ k, k ∈ report.groups.map GroupOutcome.key ↔ k ∈ intake.units.map ParsedUnit.rootName

theorem referenceSet_eq_error_iff : e.referenceSet s = .error .empty ↔
    Reference.NoneUsable e.store e.settings e.roots s.references (e.cleared s) :=
  Reference.getOrResolve_eq_error_iff ..

/-- The causes in terms of how the intake and the search for references end. -/
def Stops (e : Engine φ σ ρ) (root : Path) (s : EngineState φ σ ρ) (xs : List (Exchange ρ)) :
    FailureKind → Prop
  | .inputRejected => e.settings.enabled = false ∨ e.settings.enabled = true ∧
      ((∃ made, e.intake root s = .error (.rootCreated made)) ∨
        ∃ err, e.intake root s = .error err ∧ Intake.IsCapError err)
  | .io => e.settings.enabled = true ∧ ∃ x, e.intake root s = .error (.store x)
  | .resourceExhausted => ∃ x ∈ xs, x.isExhausted = true
  | .noEligibleFiles => e.settings.enabled = true ∧
      ∃ intake, e.intake root s = .ok intake ∧ intake.units = []
  | .noReferences => e.settings.enabled = true ∧
      (∃ intake, e.intake root s = .ok intake ∧ intake.units ≠ []) ∧
      e.referenceSet s = .error .empty
  | .service => False

theorem cause_iff_stops {xs : List (Exchange ρ)} {k : FailureKind} :
    e.Cause root s xs k ↔ e.Stops root s xs k := by
  cases k <;>
    simp only [Cause, Stops, rootMade_iff, rootFails_iff, capExceeded_iff,
      referenceSet_eq_error_iff]

/-- Where a build ends is what it fails for. -/
theorem Course.stops {xs : List (Exchange ρ)} {r : Except BuildFailure BuildReport}
    (h : e.Course root s xs r) (k : FailureKind) : FailsAs r k ↔ e.Stops root s xs k := by
  cases h with
  | disabled off => cases k <;> simp [failsAs_error, Stops, off, BuildFailure.disabled]
  | notTaken on taken mem halts =>
    have hx := halts.exists_iff
    rw [taken] at hx
    cases ‹IntakeError› with
    | service x =>
      cases k <;> simp [failsAs_error, Stops, on, taken, hx, mem, IntakeError.ends,
        Intake.IsCapError, BuildFailure.ofIntake, BuildFailure.ofService]
    | _ =>
      cases k <;> simp [failsAs_error, Stops, on, taken, hx, IntakeError.ends, Intake.IsCapError,
        BuildFailure.ofIntake]
  | noUnits on taken halts =>
    cases k <;> simp [failsAs_error, Stops, on, taken, halts.exists_iff, BuildFailure.noSources]
  | noReferences on taken units refs halts =>
    cases k <;> simp [failsAs_error, Stops, on, taken, units, refs, halts.exists_iff,
      BuildFailure.ofReference]
  | exhausted on taken units refs mem halts =>
    cases k <;> simp [failsAs_error, Stops, on, taken, units, refs, halts.exists_iff,
      BuildFailure.ofService, mem]
  | reported on taken units refs keys halts =>
    cases k <;> simp [not_failsAs_ok, Stops, on, taken, units, refs, halts.exists_iff]

/-- Sources that are listed are rejected only for a limit that they exceed. -/
theorem cause_inputRejected_iff {xs : List (Exchange ρ)} {paths : List Path}
    (on : e.settings.enabled = true)
    (listed : Intake.Listed e.store e.settings root (e.cleared s) paths) :
    e.Cause root s xs .inputRejected ↔
      Intake.CapExceeded e.store e.settings root (e.cleared s) := by
  have there : ¬ Intake.RootMade e.store root (e.cleared s) := fun made =>
    Bool.false_ne_true (made.missing.symm.trans listed.isDir)
  simp [Cause, on, there]

theorem Course.halts {xs : List (Exchange ρ)} {r : Except BuildFailure BuildReport}
    (h : e.Course root s xs r) : ∃ b, Halts xs b := by
  cases h with
  | disabled => exact ⟨_, .nil⟩
  | notTaken _ _ _ h | noUnits _ _ h | noReferences _ _ _ _ h | exhausted _ _ _ _ _ h
  | reported _ _ _ _ _ h => exact ⟨_, h⟩

theorem Course.ending {xs : List (Exchange ρ)} {r : Except BuildFailure BuildReport}
    (h : e.Course root s xs r) : e.Ending root s xs r where
  causes k := (h.stops k).trans cause_iff_stops.symm
  rejected paths sizes on listed measured fits := by
    rw [h.stops, ← cause_iff_stops, cause_inputRejected_iff on listed]
    exact Intake.capExceeded_iff_of_lt listed measured fits
  last ys x zs he hx := by
    obtain ⟨b, hb⟩ := h.halts
    exact hb.eq_nil he hx
  reported hc := by
    have hk : ∀ k, ¬ FailsAs r k := fun k hf => hc k (cause_iff_stops.2 ((h.stops k).1 hf))
    cases h with
    | reported on taken units refs keys halts =>
      refine ⟨_, _, rfl, taken, ?_, fun k => ?_⟩
      · dsimp only
        rw [keys]
        exact CompilationGroup.partition_keys_nodup ..
      · dsimp only
        rw [keys]
        exact CompilationGroup.mem_partition_keys
    | _ => exact absurd ⟨_, rfl, rfl⟩ (hk _)

end Engine
end PluginForge
