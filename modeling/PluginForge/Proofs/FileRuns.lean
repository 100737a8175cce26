/-
What a script file run brings when other callers come at the same time. What a call runs is what it
finds under the name of its file after it came back from having its text compiled. That was compiled
from the text that the call read, up to the content hash, or else another content was put on the
shelf under that name in the meantime: files of different directories can have one name, and a file
can change.

That the second case happens (`not_runsWhatItRead`) is against what a run of a file is for.
-/
import PluginForge.Engine.FileRuns
import PluginForge.Proofs.ShelfOrigins

namespace PluginForge

variable {ι φ σ ρ : Type}

/-! ## What is done on the shelf in runs of files -/

/-- A step on the shelf as a step of a caller with a file. -/
def TakenStep.inFile (s : TakenStep ι ρ) : ι × FileAction ρ :=
  (s.caller, .script s.stage s.action)

/-- The step on the shelf that a step is, if it is one. -/
def taken? : ι × FileAction ρ → Option (TakenStep ι ρ)
  | (i, .script st a) => some ⟨i, st, a⟩
  | _ => none

/-- The steps on the shelf among the steps of callers with files. -/
def scriptSteps (steps : List (ι × FileAction ρ)) : List (TakenStep ι ρ) :=
  steps.filterMap taken?

theorem FileStage.afterCompile_of_ne {run : FileRun} {source : String} {a : CallerAction ρ}
    (h : ∀ result, a ≠ .leave result) : afterCompile run source a = .compiling run source := by
  cases a with
  | leave result => exact absurd rfl (h result)
  | clear | precompile | recompile | evict | wait | wake | take | check | giveUp | ask | answer
  | store | unwind => rfl

namespace Engine

open Callers

section

variable [DecidableEq ι] {e : Engine φ σ ρ} {direct : ι → Prop} {c c' : FileRunners ι ρ} {i j : ι}
  {a : FileAction ρ} {steps : List (ι × FileAction ρ)}

/-- What a step does to what all callers share. -/
theorem FileStep.callers (h : e.FileStep direct i c a c') :
    scriptSteps [(i, a)] = [] ∧ c'.callers = c.callers ∨
      ∃ b, a = .script (c.callers.stage i) b ∧ e.CallerStep i c.callers b c'.callers := by
  cases h with
  | start | read | lookUp | invoke | finish => exact .inl ⟨rfl, rfl⟩
  | submit _ step | compile _ step | direct _ _ step => exact .inr ⟨_, rfl, step⟩

theorem FileStep.file_of_ne (h : e.FileStep direct i c a c') (hj : j ≠ i) :
    c'.stage j = c.stage j := by
  cases h with
  | start | read | lookUp | invoke | finish | submit | compile => exact Function.update_of_ne hj ..
  | direct => rfl

theorem file_put_self (c : FileRunners ι ρ) (i : ι) (st : FileStage ρ) : (c.put i st).stage i = st :=
  Function.update_self ..

theorem FileSteps.callers (h : e.FileSteps direct c steps c') :
    e.CallerSteps c.callers (scriptSteps steps) c'.callers := by
  induction h with
  | nil => exact .nil
  | concat _ step ih =>
    rw [scriptSteps, List.filterMap_append]
    rcases step.callers with ⟨hs, hc⟩ | ⟨b, rfl, hc⟩
    · rw [scriptSteps] at hs
      rw [hs, List.append_nil, hc]
      exact ih
    · exact ih.concat hc

end

/-! ## How far a run of a file is -/

/-- At this step the caller `i` comes to have its script compiled: it finds it on the shelf, or puts
it there. -/
inductive Settles (i : ι) (job : ScriptJob) : ι × FileAction ρ → Prop
  | found : Settles i job (i, .script (.checking job) (.check true))
  | stored (code : ρ) : Settles i job (i, .script (.storing job code) (.store code))

/-- In the steps `done`, the caller `i` has read `source` and has had it compiled; what is on the shelf
under the name of the file has that content, unless it was put there afterwards. -/
def Settled (i : ι) (run : FileRun) (source : String) (done : List (ι × FileAction ρ))
    (shelf : Script.Shelf ρ) : Prop :=
  ∃ settled, Settles i (run.job source) settled ∧
    List.Sublist [(i, .read (.ok source)), settled] done ∧
    PutSince TakenStep.inFile [settled] (·.contentHash = (run.job source).hash) run.name done shelf

/-- In the steps `during`, after the steps `earlier`, the caller `i` reads `source` from its file, has
it compiled and looks up `entry`. -/
structure Found (e : Engine φ σ ρ) (shelf : Script.Shelf ρ) (i : ι) (run : FileRun)
    (earlier during : List (ι × FileAction ρ)) (source : String) (entry : Script.Entry ρ) : Prop where
  reads : ∃ files, e.readScript run.path files = .ok source
  /-- The entry has the content that the caller read, or was put on the shelf after the caller had
  had its script compiled, by one that came with another content. -/
  content : ∃ settled, Settles i (run.job source) settled ∧
    List.Sublist [(i, .read (.ok source)), settled, (i, .lookUp (some entry))] during ∧
    (entry.contentHash = (run.job source).hash ∨
      ∃ (j : ι) (other : ScriptJob) (code : ρ), entry = other.entry code ∧
        other.key = (run.job source).key ∧ other.hash ≠ (run.job source).hash ∧
        List.Sublist [settled, (j, .script (.storing other code) (.store code)),
          (i, .lookUp (some entry))] during)
  /-- It was on the shelf from the start, or has been compiled. -/
  origin : shelf.find? run.name = some entry ∨
    ∃ (j : ι) (job : ScriptJob) (code : ρ), entry = job.entry code ∧
      e.Compiles j job code (scriptSteps (earlier ++ during))

/-- In the steps `during`, the caller `i` comes to the value that its run of a file returns. -/
def RunsFile (e : Engine φ σ ρ) (shelf : Script.Shelf ρ) (i : ι) (run : FileRun)
    (earlier during : List (ι × FileAction ρ)) (value : Json) : Prop :=
  ∃ source entry s,
    let r := (e.service.run entry.code run.context s).1
    e.Found shelf i run earlier during source entry ∧
      List.Sublist [(i, .lookUp (some entry)), (i, .invoke r)] during ∧
      runOutcome run.name run.limit r = .ok value

/-- How far a call is that has compiled what was read from a file. -/
def Submitted (i : ι) (run : FileRun) (source : String) (done : List (ι × FileAction ρ))
    (shelf : Script.Shelf ρ) : CallerStage ρ → Prop
  | .idle | .evicting _ => False
  | .arriving job | .waiting job | .checking job | .resolving job | .asking job _
  | .storing job _ => job = run.job source
  | .leaving job result =>
    job = run.job source ∧ ∀ status, result = some (.ok status) → Settled i run source done shelf

/-- How far a run of a file is after the steps `done` of it. -/
def FileCourse (e : Engine φ σ ρ) (shelf : Script.Shelf ρ) (i : ι) (run : FileRun)
    (earlier done : List (ι × FileAction ρ)) (callers : Callers ι ρ) : FileStage ρ → Prop
  | .idle => False
  | .reading run' => run' = run
  | .submitting run' source =>
    run' = run ∧ (∃ files, e.readScript run.path files = .ok source) ∧
      List.Sublist [(i, .read (.ok source))] done
  | .compiling run' source =>
    run' = run ∧ (∃ files, e.readScript run.path files = .ok source) ∧
      List.Sublist [(i, .read (.ok source))] done ∧
      Submitted i run source done callers.shelf (callers.stage i)
  | .looking run' source =>
    run' = run ∧ (∃ files, e.readScript run.path files = .ok source) ∧
      Settled i run source done callers.shelf
  | .invoking run' code =>
    run' = run ∧ ∃ source entry, entry.code = code ∧ e.Found shelf i run earlier done source entry ∧
      List.Sublist [(i, .lookUp (some entry))] done
  | .returning run' result =>
    run' = run ∧ ∀ value, result = some (.ok value) → e.RunsFile shelf i run earlier done value

/-! ## One step -/

section

variable {e : Engine φ σ ρ} {shelf shelf' : Script.Shelf ρ} {i : ι} {run : FileRun} {source : String}
  {earlier done : List (ι × FileAction ρ)} {s : ι × FileAction ρ} {entry : Script.Entry ρ}
  {value : Json}

theorem Found.concat (h : e.Found shelf i run earlier done source entry) :
    e.Found shelf i run earlier (done ++ [s]) source entry := by
  have later : done.Sublist (done ++ [s]) := List.sublist_append_left ..
  constructor
  case reads => exact h.reads
  case content =>
    obtain ⟨settled, hs, order, content⟩ := h.content
    refine ⟨settled, hs, order.trans later, content.imp_right ?_⟩
    rintro ⟨j, other, code, he, hk, hh, overtaken⟩
    exact ⟨j, other, code, he, hk, hh, overtaken.trans later⟩
  case origin =>
    refine h.origin.imp_right ?_
    rintro ⟨j, job, code, he, compiles⟩
    exact ⟨j, job, code, he, compiles.mono (((List.Sublist.refl _).append later).filterMap _)⟩

theorem RunsFile.concat (h : e.RunsFile shelf i run earlier done value) :
    e.RunsFile shelf i run earlier (done ++ [s]) value := by
  obtain ⟨source, entry, t, found, invoked, outcome⟩ := h
  exact ⟨source, entry, t, found.concat, invoked.trans (List.sublist_append_left ..), outcome⟩

variable {st : CallerStage ρ}

theorem Submitted.woken (h : Submitted i run source done shelf st) :
    Submitted i run source done shelf st.woken := by
  cases st with
  | waiting => exact h
  | idle | evicting | arriving | checking | resolving | asking | storing | leaving => exact h

theorem Submitted.job_eq {job : ScriptJob} (h : Submitted i run source done shelf st)
    (held : st.held? = some job) : job = run.job source := by
  cases st with
  | idle | evicting | arriving | waiting => cases held
  | checking | resolving | asking | storing =>
    cases held
    exact h
  | leaving =>
    cases held
    exact h.1

variable [DecidableEq ι] {direct : ι → Prop} {c c' : FileRunners ι ρ} {j : ι} {a : FileAction ρ}

theorem Settled.step (h : Settled i run source done c.callers.shelf)
    (step : e.FileStep direct j c a c') :
    Settled i run source (done ++ [(j, a)]) c'.callers.shelf := by
  obtain ⟨settled, hs, order, put⟩ := h
  have later : done.Sublist (done ++ [(j, a)]) := List.sublist_append_left ..
  refine ⟨settled, hs, order.trans later, ?_⟩
  rcases step.callers with ⟨-, hc⟩ | ⟨b, rfl, hc⟩
  · rw [hc]
    exact put.mono later
  · exact put.step ((List.sublist_cons_self ..).trans order) hc

theorem Submitted.step_of_ne
    (h : Submitted i run source done c.callers.shelf (c.callers.stage i))
    (step : e.FileStep direct j c a c') (hj : j ≠ i) :
    Submitted i run source (done ++ [(j, a)]) c'.callers.shelf (c'.callers.stage i) := by
  have stays : Submitted i run source (done ++ [(j, a)]) c'.callers.shelf (c.callers.stage i) := by
    cases hs : c.callers.stage i with
    | leaving =>
      rw [hs] at h
      exact ⟨h.1, fun status hr => (h.2 status hr).step step⟩
    | idle | evicting | arriving | waiting | checking | resolving | asking | storing =>
      rw [hs] at h
      exact h
  rcases step.callers with ⟨-, hc⟩ | ⟨b, -, hc⟩
  · rwa [hc] at stays ⊢
  · rcases hc.stage_of_ne hj.symm with hs | hs
    · rwa [hs]
    · rw [hs]
      exact stays.woken

/-- When the caller itself goes on in its call. -/
theorem Submitted.step_self {b : CallerAction ρ} {callers : Callers ι ρ}
    (h : Submitted i run source done c.callers.shelf (c.callers.stage i))
    (read : List.Sublist [(i, .read (.ok source))] done)
    (step : e.CallerStep i c.callers b callers) (stays : ∀ result, b ≠ .leave result) :
    Submitted i run source (done ++ [(i, .script (c.callers.stage i) b)]) callers.shelf
      (callers.stage i) := by
  cases step with
  | clear _ hs | precompile _ hs | recompile _ hs | evict hs =>
    rw [hs] at h
    exact h.elim
  | wait hs | wake hs | take hs | miss hs | ask _ hs | built hs =>
    rw [hs] at h
    rw [put_stage_self]
    exact h
  | giveUp _ hs | failed hs =>
    rw [hs] at h
    rw [put_stage_self]
    exact ⟨h, nofun⟩
  | @hit job hs held =>
    rw [hs] at h ⊢
    obtain rfl : job = run.job source := h
    rw [put_stage_self]
    refine ⟨rfl, fun _ _ => ⟨_, .found, read.append (List.Sublist.refl [_]), ?_⟩⟩
    intro entry found
    obtain ⟨entry', found', hash⟩ := (Script.Shelf.holds_iff ..).1 held
    cases found.symm.trans found'
    exact .inl hash
  | @store job code hs =>
    rw [hs] at h ⊢
    obtain rfl : job = run.job source := h
    rw [put_stage_self]
    refine ⟨rfl, fun _ _ => ⟨_, .stored code, read.append (List.Sublist.refl [_]), ?_⟩⟩
    intro entry found
    have stored := c.callers.shelf.find?_insert_self ((run.job source).entry code)
    cases found.symm.trans stored
    exact .inl rfl
  | @unwind job hs =>
    rw [put_stage_self]
    exact ⟨h.job_eq hs, nofun⟩
  | leave => exact absurd rfl (stays _)

/-- While another caller goes on. -/
theorem FileCourse.step_of_ne
    (h : e.FileCourse shelf i run earlier done c.callers (c.stage i))
    (step : e.FileStep direct j c a c') (hj : j ≠ i) :
    e.FileCourse shelf i run earlier (done ++ [(j, a)]) c'.callers (c'.stage i) := by
  have later : done.Sublist (done ++ [(j, a)]) := List.sublist_append_left ..
  rw [step.file_of_ne hj.symm]
  cases hs : c.stage i with
  | idle | reading =>
    rw [hs] at h
    exact h
  | submitting =>
    rw [hs] at h
    obtain ⟨rfl, reads, read⟩ := h
    exact ⟨rfl, reads, read.trans later⟩
  | compiling run' source =>
    rw [hs] at h
    obtain ⟨rfl, reads, read, submitted⟩ := h
    exact ⟨rfl, reads, read.trans later, submitted.step_of_ne step hj⟩
  | looking =>
    rw [hs] at h
    obtain ⟨rfl, reads, settled⟩ := h
    exact ⟨rfl, reads, settled.step step⟩
  | invoking =>
    rw [hs] at h
    obtain ⟨rfl, source, entry, code, found, looked⟩ := h
    exact ⟨rfl, source, entry, code, found.concat, looked.trans later⟩
  | returning =>
    rw [hs] at h
    obtain ⟨rfl, returns⟩ := h
    exact ⟨rfl, fun value hr => (returns value hr).concat⟩

/-- When the caller goes on with having its script compiled. -/
theorem Submitted.afterCompile {b : CallerAction ρ} {callers : Callers ι ρ}
    (h : Submitted i run source done c.callers.shelf (c.callers.stage i))
    (reads : ∃ files, e.readScript run.path files = .ok source)
    (read : List.Sublist [(i, .read (.ok source))] done)
    (step : e.CallerStep i c.callers b callers) :
    e.FileCourse shelf i run earlier (done ++ [(i, .script (c.callers.stage i) b)]) callers
      (.afterCompile run source b) := by
  have later := List.sublist_append_left done [(i, .script (c.callers.stage i) b)]
  by_cases stays : ∀ result, b ≠ .leave result
  · rw [FileStage.afterCompile_of_ne stays]
    exact ⟨rfl, reads, read.trans later, h.step_self read step stays⟩
  · obtain ⟨result, hb⟩ := not_forall.1 stays
    obtain rfl := not_not.1 hb
    cases step with
    | leave hs =>
      rw [hs] at h
      match result with
      | none | some (.error err) => exact ⟨rfl, nofun⟩
      | some (.ok status) =>
        obtain ⟨settled, ht, order, put⟩ := h.2 status rfl
        exact ⟨rfl, reads, settled, ht, order.trans later, put.mono later⟩

/-- When the caller finds its script, or another one, on the shelf. -/
theorem Settled.found {files : φ} {callers : Callers ι ρ}
    (h : Settled i run source done callers.shelf)
    (reads : e.readScript run.path files = .ok source)
    (steps : e.CallerSteps (.start shelf) (scriptSteps (earlier ++ done)) callers)
    (looked : callers.shelf.find? run.name = some entry) :
    e.Found shelf i run earlier (done ++ [(i, .lookUp (some entry))]) source entry := by
  obtain ⟨settled, hs, order, put⟩ := h
  constructor
  case reads => exact ⟨files, reads⟩
  case content =>
    refine ⟨settled, hs, order.append (List.Sublist.refl [_]), ?_⟩
    by_cases hash : entry.contentHash = (run.job source).hash
    · exact .inl hash
    · obtain ⟨j, other, code, rfl, key, overtaken⟩ := (put entry looked).resolve_left hash
      exact .inr ⟨j, other, code, rfl, key, hash, overtaken.append (List.Sublist.refl [_])⟩
  case origin =>
    refine (steps.origin looked).imp_right ?_
    rintro ⟨j, job, code, he, compiles⟩
    refine ⟨j, job, code, he, compiles.mono ?_⟩
    exact ((List.Sublist.refl _).append (List.sublist_append_left ..)).filterMap _

/-- When the caller itself goes on. -/
theorem FileCourse.step_self
    (h : e.FileCourse shelf i run earlier done c.callers (c.stage i))
    (steps : e.FileSteps direct (.start shelf) (earlier ++ done) c)
    (step : e.FileStep direct i c a c') (stays : ∀ result, a ≠ .finish result) :
    e.FileCourse shelf i run earlier (done ++ [(i, a)]) c'.callers (c'.stage i) := by
  have later : done.Sublist (done ++ [(i, a)]) := List.sublist_append_left ..
  cases step with
  | start _ hs | direct _ hs =>
    rw [hs] at h
    exact h.elim
  | @read run files hs =>
    rw [hs] at h
    obtain rfl := h
    rw [file_put_self]
    cases hr : e.readScript run.path files with
    | error err => exact ⟨rfl, nofun⟩
    | ok source => exact ⟨rfl, ⟨files, hr⟩, List.sublist_append_right ..⟩
  | submit hs step =>
    rw [hs] at h
    obtain ⟨rfl, reads, read⟩ := h
    rw [file_put_self]
    refine ⟨rfl, reads, read.trans later, ?_⟩
    cases step with
    | precompile =>
      show Submitted _ _ _ _ _ ((c.callers.put i _).stage i)
      rw [put_stage_self]
      rfl
  | compile hs step =>
    rw [hs] at h
    obtain ⟨rfl, reads, read, submitted⟩ := h
    rw [file_put_self]
    exact submitted.afterCompile reads read step
  | @lookUp run source hs =>
    rw [hs] at h
    obtain ⟨rfl, ⟨files, reads⟩, settled⟩ := h
    rw [file_put_self]
    cases looked : c.callers.shelf.find? run.name with
    | none => exact ⟨rfl, nofun⟩
    | some entry =>
      exact ⟨rfl, source, entry, rfl, settled.found reads steps.callers looked,
        List.sublist_append_right ..⟩
  | @invoke run code t hs =>
    rw [hs] at h
    obtain ⟨rfl, source, entry, rfl, found, looked⟩ := h
    rw [file_put_self]
    refine ⟨rfl, fun value hr => ?_⟩
    refine ⟨source, entry, t, found.concat, looked.append (List.Sublist.refl [_]), ?_⟩
    cases ho : runOutcome run.name run.limit (e.service.run entry.code run.context t).1 with
    | error err =>
      rw [ho] at hr
      cases hr
    | ok value' =>
      rw [ho] at hr
      cases hr
      rfl
  | finish => exact absurd rfl (stays _)

end

/-! ## Runs -/

section

variable [DecidableEq ι] {e : Engine φ σ ρ} {direct : ι → Prop} {c c' c'' : FileRunners ι ρ} {i : ι}
  {run : FileRun} {value : Json} {shelf : Script.Shelf ρ} {s : ι × FileAction ρ}
  {steps more before during after : List (ι × FileAction ρ)}

theorem FileSteps.append (h : e.FileSteps direct c steps c') (h' : e.FileSteps direct c' more c'') :
    e.FileSteps direct c (steps ++ more) c'' := by
  induction h' with
  | nil => rwa [List.append_nil]
  | concat _ step ih =>
    rw [← List.append_assoc]
    exact .concat ih step

theorem FileSteps.cons {a : FileAction ρ} (step : e.FileStep direct i c a c')
    (rest : e.FileSteps direct c' more c'') : e.FileSteps direct c ((i, a) :: more) c'' :=
  (FileSteps.nil.concat step).append rest

theorem FileSteps.unconcat (h : e.FileSteps direct c (steps ++ [s]) c') :
    ∃ m, e.FileSteps direct c steps m ∧ e.FileStep direct s.1 m s.2 c' := by
  generalize hs : steps ++ [s] = all at h
  cases h with
  | nil => exact absurd hs (List.concat_ne_nil s steps)
  | concat before step =>
    obtain ⟨rfl, last⟩ := List.append_inj' hs rfl
    obtain rfl := List.singleton_inj.1 last
    exact ⟨_, before, step⟩

theorem FileSteps.split (h : e.FileSteps direct c (steps ++ more) c') :
    ∃ m, e.FileSteps direct c steps m ∧ e.FileSteps direct m more c' := by
  induction more using List.reverseRecOn generalizing c' with
  | nil =>
    rw [List.append_nil] at h
    exact ⟨c', h, .nil⟩
  | append_singleton more s ih =>
    rw [← List.append_assoc] at h
    obtain ⟨m', hm, step⟩ := h.unconcat
    obtain ⟨m, hs, hm⟩ := ih hm
    exact ⟨m, hs, .concat hm step⟩

theorem FileSteps.course {earlier : List (ι × FileAction ρ)}
    (first : e.FileSteps direct (.start shelf) earlier c) (h : e.FileSteps direct c during c')
    (hc : c.stage i = .reading run)
    (stays : ∀ s ∈ during, s.1 = i → ∀ result, s.2 ≠ .finish result) :
    e.FileCourse shelf i run earlier during c'.callers (c'.stage i) := by
  induction h with
  | nil =>
    rw [hc]
    rfl
  | @concat _ _ done j a before step ih =>
    rw [List.forall_mem_append, List.forall_mem_singleton] at stays
    have course := ih stays.1
    by_cases hj : j = i
    · subst hj
      exact course.step_self (first.append before) step (stays.2 rfl)
    · exact course.step_of_ne step hj

/-- A run of a file that returns a value has it from the code that the call found on the shelf. This
was compiled from what the call read, up to the content hash, or was put on the shelf by a caller that
came with another content after the call had had its script compiled. -/
theorem FileSteps.runsFile
    (h : e.FileSteps direct (.start shelf) (before ++ [(i, .start run)] ++ during ++
      [(i, .finish (some (.ok value)))] ++ after) c')
    (call : ∀ s ∈ during, s.1 = i → ∀ result, s.2 ≠ .finish result) :
    e.RunsFile shelf i run (before ++ [(i, .start run)]) during value := by
  obtain ⟨_, h, -⟩ := h.split
  obtain ⟨m', h, finished⟩ := h.unconcat
  obtain ⟨m, first, during⟩ := h.split
  obtain ⟨_, -, started⟩ := first.unconcat
  have reading : m.stage i = .reading run := by
    cases started with
    | start => exact file_put_self ..
  have course := first.course during reading call
  cases finished with
  | finish hs =>
    rw [hs] at course
    exact course.2 value rfl

end

/-! ## Calls as a whole -/

section

variable [DecidableEq ι] {e : Engine φ σ ρ} {direct : ι → Prop} {c : FileRunners ι ρ} {i : ι}
  {run : FileRun} {source : String} {callers : Callers ι ρ} {taken : List (TakenStep ι ρ)}
  {result : Option (Except ScriptError PrecompileStatus)} {st : CallerStage ρ}

/-- What a caller does in a call that has a script compiled, it can do for a file. -/
theorem CallerSteps.fileSteps (h : e.CallerSteps c.callers taken callers)
    (stage : c.stage i = .compiling run source)
    (mine : ∀ s ∈ taken, s.caller = i ∧ ∀ result, s.action ≠ .leave result) :
    e.FileSteps direct c (taken.map TakenStep.inFile) { c with callers } := by
  induction h using CallerSteps.concatInduction with
  | nil => exact .nil
  | @concat done m j a m' before step ih =>
    rw [List.forall_mem_append, List.forall_mem_singleton] at mine
    obtain ⟨rfl, stays⟩ := mine.2
    have step : e.FileStep direct j { c with callers := m } _ _ := .compile stage step
    rw [FileStage.afterCompile_of_ne stays, FileRunners.put, ← stage,
      Function.update_eq_self] at step
    rw [List.map_append]
    exact .concat (ih mine.1) step

/-- A whole call, from submitting what was read to coming back. -/
theorem CallerSteps.call
    (h : e.CallerSteps c.callers (⟨i, .idle, .precompile (run.job source)⟩ :: taken ++
      [⟨i, st, .leave result⟩]) callers) (stage : c.stage i = .submitting run source)
    (mine : ∀ s ∈ taken, s.caller = i ∧ ∀ result, s.action ≠ .leave result) :
    e.FileSteps direct c ((⟨i, .idle, .precompile (run.job source)⟩ :: taken ++
      [⟨i, st, .leave result⟩] : List (TakenStep ι ρ)).map TakenStep.inFile)
      ({ c with callers }.put i (.afterCompile run source (.leave result))) := by
  obtain ⟨m', h, hl⟩ := h.split
  obtain ⟨m, hs, told, during⟩ := h.uncons
  obtain ⟨_, hst, left, rest⟩ := hl.uncons
  cases rest
  dsimp only at hs told hst left
  let c₁ : FileRunners ι ρ := { c with callers := m }.put i (.compiling run source)
  have submitted : e.FileStep direct i c _ c₁ := .submit stage told
  have during : e.FileSteps direct c₁ _ _ := during.fileSteps (file_put_self ..) mine
  have returned : e.FileStep direct i { c₁ with callers := m' } _ _ :=
    .compile (file_put_self ..) left
  rw [hs] at submitted
  rw [hst, FileRunners.put, show c₁.stage = Function.update c.stage i _ from rfl,
    Function.update_idem] at returned
  rw [List.map_append]
  exact .concat (.cons submitted during) returned

end

/-! ## Two files of one name -/

/-- Two script files in different directories, whose names differ in case only. -/
def twoGreetings : MemoryStore where
  files := [("a/greet.csx", Encoding.toUtf8 "return 1;"), ("b/Greet.csx", Encoding.toUtf8 "return 2;")]
  dirs := []

def greetRun : FileRun :=
  ⟨⟨"a/greet.csx"⟩, .null, 5000⟩

def otherGreetRun : FileRun :=
  ⟨⟨"b/Greet.csx"⟩, .null, 5000⟩

/-- What a script compiles to in memory. -/
def echo (job : ScriptJob) : Scripted.Code :=
  .echo job.name job.source

/-- What is done in a call that compiles a script, between its beginning and its end. -/
def compiling (i : Bool) (job : ScriptJob) : List (TakenStep Bool Scripted.Code) :=
  let request := inMemory.scriptRequest job.name job.source job.imports []
  [⟨i, .arriving job, .take⟩, ⟨i, .checking job, .check false⟩, ⟨i, .resolving job, .ask request⟩,
    ⟨i, .asking job request, .answer request (.answer ⟨true, [], some (echo job)⟩)⟩,
    ⟨i, .storing job (echo job), .store (echo job)⟩]

/-- What is done in such a call. -/
def compileCall (i : Bool) (job : ScriptJob) : List (TakenStep Bool Scripted.Code) :=
  ⟨i, .idle, .precompile job⟩ :: compiling i job ++
    [⟨i, .leaving job (some (.ok .compiled)), .leave (some (.ok .compiled))⟩]

theorem callerSteps_compileCall {c : Callers Bool Scripted.Code} (i : Bool) (job : ScriptJob)
    (out : ∀ j, c.stage j = .idle) (free : c.compiling = [])
    (missing : c.shelf.holds job.name job.hash = false) :
    ∃ c', inMemory.CallerSteps c (compileCall i job) c' ∧ (∀ j, c'.stage j = .idle) ∧
      c'.compiling = [] ∧ c'.shelf = c.shelf.insert (job.entry (echo job)) := by
  have steps : inMemory.CallerSteps c (compileCall i job) _ :=
    .next (out i) (.precompile job ·) <|
    .next (put_stage_self ..) (.take · (by simp [put, free])) <|
    .next (put_stage_self ..) (.miss · missing) <|
    .next (put_stage_self ..) (.ask [] ·) <|
    .next (put_stage_self ..) (.built · rfl) <|
    .next (put_stage_self ..) (.store ·) <|
    .next (put_stage_self ..) (.leave ·) <|
    .nil
  refine ⟨_, steps, fun j => ?_, ?_, rfl⟩
  · by_cases hj : j = i <;> simp [giveBack, put, hold, hj, out, CallerStage.woken]
  · simp [giveBack, put, hold, free]

theorem mine_of_mem_compiling {i : Bool} {job : ScriptJob} {s : TakenStep Bool Scripted.Code}
    (hs : s ∈ compiling i job) : s.caller = i ∧ ∀ result, s.action ≠ .leave result := by
  simp only [compiling, List.mem_cons, List.not_mem_nil, or_false] at hs
  rcases hs with rfl | rfl | rfl | rfl | rfl <;> exact ⟨rfl, nofun⟩

/-- What one caller does in its run of the first file while another one runs the second file, after
the first has had its script compiled and before it looks it up. -/
def overlapping : List (Bool × FileAction Scripted.Code) :=
  (true, .read (.ok "return 1;")) :: ((compileCall true (greetRun.job "return 1;")).map
    TakenStep.inFile ++ (false, .start otherGreetRun) :: (false, .read (.ok "return 2;")) ::
      ((compileCall false (otherGreetRun.job "return 2;")).map TakenStep.inFile ++
        [(true, .lookUp (some ((otherGreetRun.job "return 2;").entry (.echo "Greet" "return 2;")))),
          (true, .invoke (Scripted.run (.echo "Greet" "return 2;") .null))]))

/-- What the script of the second file returns. -/
def greeting : Json :=
  .obj [("context", .null), ("script", .str "Greet")]

theorem FileStep.reads {direct : Bool → Prop} {c : FileRunners Bool Scripted.Code} {i : Bool}
    {run : FileRun} {source : String} (h : c.stage i = .reading run)
    (reads : inMemory.readScript run.path twoGreetings = .ok source) :
    inMemory.FileStep direct i c (.read (.ok source)) (c.put i (.submitting run source)) := by
  have step : inMemory.FileStep direct i c _ _ := .read twoGreetings h
  rwa [reads] at step

theorem returns_greeting :
    FileStage.afterInvoke greetRun (Scripted.run (.echo "Greet" "return 2;") .null) =
      (.returning greetRun (some (.ok greeting)) : FileStage Scripted.Code) := by
  rfl

/-- The script of the first file comes to something else. -/
theorem runs_greet : runOutcome greetRun.name greetRun.limit
    (Scripted.run (echo (greetRun.job "return 1;")) .null) =
      .ok (.obj [("context", .null), ("script", .str "greet")]) := by
  rfl

theorem key_otherGreetRun : Script.key otherGreetRun.name = Script.key greetRun.name := by
  decide +kernel

theorem hash_greetings : (greetRun.job "return 1;").hash ≠ (otherGreetRun.job "return 2;").hash := by
  decide +kernel

theorem fileSteps_overlapping :
    ∃ c', inMemory.FileSteps (fun _ => False) (.start .empty)
      ([] ++ [(true, .start greetRun)] ++ overlapping ++ [(true, .finish (some (.ok greeting)))] ++
        []) c' := by
  let one := greetRun.job "return 1;"
  let other := otherGreetRun.job "return 2;"
  obtain ⟨m, call, out, free, hm⟩ := callerSteps_compileCall (c := .start .empty) true one
    (fun _ => rfl) rfl rfl
  have key : Script.key (one.entry (echo one)).name = Script.key other.name := key_otherGreetRun.symm
  have missing : m.shelf.holds other.name other.hash = false := by
    rw [hm, Script.Shelf.holds, Script.Shelf.find?_insert, if_pos key]
    exact decide_eq_false hash_greetings
  obtain ⟨m', call', out', -, hm'⟩ := callerSteps_compileCall false other out free missing
  have looked : m'.shelf.find? greetRun.name = some (other.entry (echo other)) := by
    rw [hm', Script.Shelf.find?_insert]
    exact if_pos key_otherGreetRun
  let c : FileRunners Bool Scripted.Code :=
    (FileRunners.put (.start .empty) true (.reading greetRun)).put true (.submitting greetRun "return 1;")
  let d : FileRunners Bool Scripted.Code :=
    (({ c with callers := m }.put true (.looking greetRun "return 1;")).put false
      (.reading otherGreetRun)).put false (.submitting otherGreetRun "return 2;")
  have first : inMemory.FileSteps (fun _ => False) c _ _ :=
    call.call (file_put_self ..) fun s hs => mine_of_mem_compiling hs
  have second : inMemory.FileSteps (fun _ => False) d _ _ :=
    call'.call (file_put_self ..) fun s hs => mine_of_mem_compiling hs
  let g : FileRunners Bool Scripted.Code :=
    { d with callers := m' }.put false (.looking otherGreetRun "return 2;")
  have looking : g.stage true = .looking greetRun "return 1;" := rfl
  have looks : inMemory.FileStep (fun _ => False) true g _ _ := .lookUp looking
  rw [show g.callers.shelf.find? greetRun.name = _ from looked] at looks
  have invokes : inMemory.FileStep (fun _ => False) true (g.put true (.invoking greetRun (echo other)))
      _ _ := .invoke [] (file_put_self ..)
  rw [show inMemory.service.run (echo other) greetRun.context [] =
    (Scripted.run (.echo "Greet" "return 2;") .null, []) from rfl, returns_greeting] at invokes
  exact ⟨_, .cons (.start greetRun rfl rfl) <| .cons (.reads (file_put_self ..) rfl) <|
    first.append <| .cons (.start otherGreetRun rfl (out false)) <|
    .cons (.reads (file_put_self ..) rfl) <| second.append <| .cons looks <|
    .cons invokes <| .cons (.finish (file_put_self ..)) .nil⟩

theorem mem_overlapping {s : Bool × FileAction Scripted.Code} (hs : s ∈ overlapping) :
    s = (true, .read (.ok "return 1;")) ∨ s.1 = false ∨
      (∃ st a, s.2 = .script st a) ∨ (∃ found, s.2 = .lookUp found) ∨ ∃ r, s.2 = .invoke r := by
  simp only [overlapping, List.mem_cons, List.mem_append, List.mem_map, List.not_mem_nil,
    or_false] at hs
  rcases hs with rfl | ⟨t, -, rfl⟩ | rfl | rfl | ⟨t, -, rfl⟩ | rfl | rfl
  · exact .inl rfl
  · exact .inr (.inr (.inl ⟨_, _, rfl⟩))
  · exact .inr (.inl rfl)
  · exact .inr (.inl rfl)
  · exact .inr (.inr (.inl ⟨_, _, rfl⟩))
  · exact .inr (.inr (.inr (.inl ⟨_, rfl⟩)))
  · exact .inr (.inr (.inr (.inr ⟨_, rfl⟩)))

theorem stays_of_mem_overlapping {s : Bool × FileAction Scripted.Code} (hs : s ∈ overlapping)
    (mine : s.1 = true) (result : Option (Except ScriptFileError Json)) : s.2 ≠ .finish result := by
  rcases mem_overlapping hs with rfl | h | ⟨st, a, h⟩ | ⟨found, h⟩ | ⟨r, h⟩
  · nofun
  · rw [mine] at h
    cases h
  all_goals
    rw [h]
    nofun

/-- The first caller returns what the script of the second file comes to, which was put on the shelf
after the first one had had its own script compiled. -/
theorem FileSteps.runsFile_overlapping :
    ∃ c', inMemory.FileSteps (fun _ => False) (.start .empty)
        ([] ++ [(true, .start greetRun)] ++ overlapping ++
          [(true, .finish (some (.ok greeting)))] ++ []) c' ∧
      (∀ s ∈ overlapping, s.1 = true → ∀ result, s.2 ≠ .finish result) ∧
      inMemory.RunsFile .empty true greetRun ([] ++ [(true, .start greetRun)]) overlapping
        greeting := by
  obtain ⟨c', steps⟩ := fileSteps_overlapping
  have stays : ∀ s ∈ overlapping, s.1 = true → ∀ result, s.2 ≠ .finish result :=
    fun _ hs mine => stays_of_mem_overlapping hs mine
  exact ⟨c', steps, stays, steps.runsFile stays⟩

/-- What a run of a file is for: whenever it returns a value, this comes from code that was compiled
from what the call read from its file, up to the content hash, when all callers come for files. -/
def RunsWhatItRead (e : Engine φ σ ρ) (ι : Type) [DecidableEq ι] : Prop :=
  ∀ (before during after : List (ι × FileAction ρ)) (c' : FileRunners ι ρ) (i : ι) (run : FileRun)
    (value : Json),
    e.FileSteps (fun _ => False) (.start .empty) (before ++ [(i, .start run)] ++ during ++
      [(i, .finish (some (.ok value)))] ++ after) c' →
    (∀ s ∈ during, s.1 = i → ∀ result, s.2 ≠ .finish result) →
    ∃ (source : String) (j : ι) (job : ScriptJob) (code : ρ) (s : σ),
      (i, .read (.ok source)) ∈ during ∧ job.hash = (run.job source).hash ∧
      e.Compiles j job code (scriptSteps (before ++ [(i, .start run)] ++ during)) ∧
      runOutcome run.name run.limit (e.service.run code run.context s).1 = .ok value

/-- It is not what such runs do: the first of two callers with files of one name returns what comes
from the file of the second. -/
theorem not_runsWhatItRead : ¬ inMemory.RunsWhatItRead Bool := by
  intro h
  obtain ⟨c', steps⟩ := fileSteps_overlapping
  obtain ⟨source, j, job, code, s, read, hash, ⟨_, _, -, compiles⟩, result⟩ :=
    h _ _ _ _ _ _ _ steps fun _ hs mine => stays_of_mem_overlapping hs mine
  obtain rfl : source = "return 1;" := by
    rcases mem_overlapping read with h | h | ⟨st, a, h⟩ | ⟨found, h⟩ | ⟨r, h⟩ <;> cases h
    rfl
  have stored : (⟨j, .storing job code, .store code⟩ : TakenStep Bool Scripted.Code) ∈
      compileCall true (greetRun.job "return 1;") ++ compileCall false (otherGreetRun.job "return 2;") :=
    compiles.subset (by simp)
  simp only [compileCall, compiling, List.mem_append, List.mem_cons, List.not_mem_nil, or_false,
    TakenStep.mk.injEq, reduceCtorEq, CallerStage.storing.injEq, and_false, false_or] at stored
  rcases stored with ⟨-, ⟨rfl, rfl⟩, -⟩ | ⟨-, ⟨rfl, -⟩, -⟩
  · have same := Except.ok.inj (runs_greet.symm.trans result)
    simp [greeting] at same
  · exact hash_greetings hash.symm

end Engine
end PluginForge
