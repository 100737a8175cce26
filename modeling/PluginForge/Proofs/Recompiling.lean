/-
A caller that is told to compile a script anew takes the script off the shelf first, and only after
that asks for its key. Between the two, and while it sleeps, another caller can put the same content
on the shelf again. So a call that returns well either had the script compiled itself, after it was
told to, or it was overtaken: it finds what another caller had compiled and put on the shelf after
the script was taken off, and never asks the compiler.

The second case is against what taking the script off the shelf is for, and it happens
(`not_recompilesAnew`). Once another caller has put the content there, none of the steps that are
left to the call looks who compiled it.
-/
import PluginForge.Proofs.ShelfOrigins

namespace PluginForge

variable {ι φ σ ρ : Type}

namespace CallerStage

/-- Whether a caller is having its script compiled, since it did not find it on the shelf. -/
def isCompiling : CallerStage ρ → Bool
  | .resolving _ | .asking .. | .storing .. => true
  | .idle | .evicting _ | .arriving _ | .waiting _ | .checking _ | .leaving .. => false

end CallerStage

namespace Engine

open Callers

/-- The caller `i` never comes to compile its script in these steps. -/
def NeverCompiles (i : ι) (steps : List (TakenStep ι ρ)) : Prop :=
  ∀ s ∈ steps, s.caller = i → s.stage.isCompiling = false

/-- How a call of the caller `i` to compile a script anew came to return well: what was done in it
(`during`), by `i` or by others, and before it (`earlier`). -/
inductive Recompiled (e : Engine φ σ ρ) (i : ι) (job : ScriptJob)
    (earlier during : List (TakenStep ι ρ)) : PrecompileStatus → Prop
  /-- The caller had the compiler give code for its script and put that on the shelf. -/
  | compiled {code} (itself : e.Compiles i job code during) :
      Recompiled e i job earlier during .compiled
  /-- After the caller took the script off the shelf, another one put the same content there, which
  it had compiled; that was found, and the caller never came to ask the compiler. -/
  | cached {j other code} (another : j ≠ i) (key : other.key = job.key)
      (hash : other.hash = job.hash)
      (overtaken : List.Sublist [⟨i, .evicting job, .evict⟩, ⟨j, .storing other code, .store code⟩,
        ⟨i, .checking job, .check true⟩] during)
      (compiles : e.Compiles j other code (earlier ++ during))
      (never : NeverCompiles i during) : Recompiled e i job earlier during .cached

/-- How far a call to compile a script anew is, after the steps `done` of it. -/
def Recompiling (e : Engine φ σ ρ) (i : ι) (job : ScriptJob) (earlier done : List (TakenStep ι ρ))
    (shelf : Script.Shelf ρ) : CallerStage ρ → Prop
  | .idle => False
  | .evicting job' => job' = job ∧ NeverCompiles i done
  | .arriving job' | .waiting job' | .checking job' =>
    job' = job ∧ NeverCompiles i done ∧ List.Sublist [⟨i, .evicting job, .evict⟩] done ∧
      PutSince id [⟨i, .evicting job, .evict⟩] (fun _ => False) job.name done shelf
  | .resolving job' | .asking job' _ | .storing job' _ => job' = job
  | .leaving job' result =>
    job' = job ∧ ∀ status, result = some (.ok status) → e.Recompiled i job earlier done status

/-! ## One step -/

section

variable {e : Engine φ σ ρ} {i : ι} {job : ScriptJob} {earlier done : List (TakenStep ι ρ)}
  {s : TakenStep ι ρ} {shelf : Script.Shelf ρ} {status : PrecompileStatus} {st : CallerStage ρ}

theorem NeverCompiles.concat (h : NeverCompiles i done)
    (hs : s.caller = i → s.stage.isCompiling = false) : NeverCompiles i (done ++ [s]) := by
  intro t ht hi
  rcases List.mem_append.1 ht with ht | ht
  · exact h t ht hi
  · obtain rfl := List.mem_singleton.1 ht
    exact hs hi

theorem Recompiled.concat (h : e.Recompiled i job earlier done status) (hs : s.caller ≠ i) :
    e.Recompiled i job earlier (done ++ [s]) status := by
  have later : done.Sublist (done ++ [s]) := List.sublist_append_left ..
  cases h with
  | compiled itself => exact .compiled (itself.mono later)
  | cached another key hash overtaken compiles never =>
    exact .cached another key hash (overtaken.trans later)
      (compiles.mono ((List.Sublist.refl _).append later)) (never.concat fun hi => absurd hi hs)

theorem Recompiling.woken (h : e.Recompiling i job earlier done shelf st) :
    e.Recompiling i job earlier done shelf st.woken := by
  cases st with
  | waiting => exact h
  | idle | evicting | arriving | checking | resolving | asking | storing | leaving => exact h

theorem Recompiling.job_eq {job' : ScriptJob} (h : e.Recompiling i job earlier done shelf st)
    (held : st.held? = some job') : job' = job := by
  cases st with
  | idle | evicting | arriving | waiting => cases held
  | checking | leaving =>
    cases held
    exact h.1
  | resolving | asking | storing =>
    cases held
    exact h

variable [DecidableEq ι] {c c' : Callers ι ρ} {j : ι} {a : CallerAction ρ}

/-- What a caller finds that took its script off the shelf, another one has compiled. -/
theorem Recompiled.of_put {start : Script.Shelf ρ}
    (run : e.CallerSteps (.start start) (earlier ++ done) c) (never : NeverCompiles i done)
    (put : PutSince id [⟨i, .evicting job, .evict⟩] (fun _ => False) job.name done c.shelf)
    (held : c.shelf.holds job.name job.hash = true) :
    e.Recompiled i job earlier (done ++ [⟨i, .checking job, .check true⟩]) .cached := by
  obtain ⟨entry, found, hash⟩ := (Script.Shelf.holds_iff ..).1 held
  obtain ⟨j, other, code, rfl, key, overtaken⟩ := (put entry found).resolve_left id
  have stored : (⟨j, .storing other code, .store code⟩ : TakenStep ι ρ) ∈ done :=
    overtaken.subset (by simp)
  have compiles : e.Compiles j other code (earlier ++ (done ++ [⟨i, .checking job, .check true⟩])) :=
    (run.compiles (List.mem_append_right _ stored)).mono
      ((List.Sublist.refl _).append (List.sublist_append_left ..))
  refine .cached ?_ key hash (overtaken.append (List.Sublist.refl [_])) compiles
    (never.concat fun _ => rfl)
  rintro rfl
  cases never _ stored rfl

/-- While another caller goes on. -/
theorem Recompiling.step_of_ne (h : e.Recompiling i job earlier done c.shelf (c.stage i))
    (step : e.CallerStep j c a c') (hj : j ≠ i) :
    e.Recompiling i job earlier (done ++ [⟨j, c.stage j, a⟩]) c'.shelf (c'.stage i) := by
  have later : done.Sublist (done ++ [⟨j, c.stage j, a⟩]) := List.sublist_append_left ..
  have stays : e.Recompiling i job earlier (done ++ [⟨j, c.stage j, a⟩]) c'.shelf (c.stage i) := by
    cases hs : c.stage i with
    | idle =>
      rw [hs] at h
      exact h
    | evicting =>
      rw [hs] at h
      exact ⟨h.1, h.2.concat fun hi => absurd hi hj⟩
    | arriving | waiting | checking =>
      rw [hs] at h
      obtain ⟨rfl, never, evicted, put⟩ := h
      exact ⟨rfl, never.concat fun hi => absurd hi hj, evicted.trans later, put.step evicted step⟩
    | resolving | asking | storing =>
      rw [hs] at h
      exact h
    | leaving =>
      rw [hs] at h
      exact ⟨h.1, fun status hr => (h.2 status hr).concat hj⟩
  rcases step.stage_of_ne (Ne.symm hj) with hs | hs
  · rwa [hs]
  · rw [hs]
    exact stays.woken

/-- When the caller itself goes on. -/
theorem Recompiling.step_self {start : Script.Shelf ρ}
    (h : e.Recompiling i job earlier done c.shelf (c.stage i))
    (run : e.CallerSteps (.start start) (earlier ++ done) c)
    (backed : e.Backed i done (c.stage i)) (step : e.CallerStep i c a c')
    (stays : ∀ result, a ≠ .leave result) :
    e.Recompiling i job earlier (done ++ [⟨i, c.stage i, a⟩]) c'.shelf (c'.stage i) := by
  have later : done.Sublist (done ++ [⟨i, c.stage i, a⟩]) := List.sublist_append_left ..
  cases step with
  | clear _ hs | precompile _ hs | recompile _ hs =>
    rw [hs] at h
    exact h.elim
  | @evict job hs =>
    rw [hs] at h ⊢
    obtain ⟨rfl, never⟩ := h
    rw [put_stage_self]
    refine ⟨rfl, never.concat fun _ => rfl, List.sublist_append_right .., fun entry found => ?_⟩
    have found : (c.shelf.erase job.name).find? job.name = some entry := found
    rw [Script.Shelf.find?_erase, if_pos rfl] at found
    cases found
  | wait hs | wake hs | take hs =>
    rw [hs] at h ⊢
    obtain ⟨rfl, never, evicted, put⟩ := h
    rw [hs] at later
    rw [put_stage_self]
    exact ⟨rfl, never.concat fun _ => rfl, evicted.trans later, put.mono later⟩
  | hit hs held =>
    rw [hs] at h ⊢
    obtain ⟨rfl, never, -, put⟩ := h
    rw [put_stage_self]
    refine ⟨rfl, fun status hr => ?_⟩
    cases hr
    exact .of_put run never put held
  | miss hs =>
    rw [hs] at h
    rw [put_stage_self]
    exact h.1
  | ask _ hs | built hs =>
    rw [hs] at h
    rw [put_stage_self]
    exact h
  | giveUp _ hs | failed hs =>
    rw [hs] at h
    rw [put_stage_self]
    exact ⟨h, nofun⟩
  | store hs =>
    rw [hs] at h backed ⊢
    obtain rfl : _ = job := h
    rw [put_stage_self]
    refine ⟨rfl, fun status hr => ?_⟩
    cases hr
    exact .compiled (Fetches.store backed)
  | unwind hs =>
    rw [put_stage_self]
    exact ⟨h.job_eq hs, nofun⟩
  | leave => exact absurd rfl (stays _)

end

/-! ## Runs -/

variable [DecidableEq ι] {e : Engine φ σ ρ} {c c' : Callers ι ρ} {i : ι} {job : ScriptJob}
  {shelf : Script.Shelf ρ} {status : PrecompileStatus}
  {before during after : List (TakenStep ι ρ)} {st : CallerStage ρ}

theorem CallerSteps.recompiling {earlier : List (TakenStep ι ρ)}
    (first : e.CallerSteps (.start shelf) earlier c) (h : e.CallerSteps c during c')
    (hc : c.stage i = .evicting job)
    (stays : ∀ s ∈ during, s.caller = i → ∀ result, s.action ≠ .leave result) :
    e.Recompiling i job earlier during c'.shelf (c'.stage i) := by
  induction h using CallerSteps.concatInduction with
  | nil =>
    rw [hc]
    exact ⟨rfl, fun _ hs => absurd hs List.not_mem_nil⟩
  | @concat done m j a m' run step ih =>
    rw [List.forall_mem_append, List.forall_mem_singleton] at stays
    have so := ih stays.1
    by_cases hj : j = i
    · subst hj
      have fresh : e.Backed j [] (c.stage j) := by
        rw [hc]
        trivial
      exact so.step_self (first.append run) (run.backed fresh) step (stays.2 rfl)
    · exact so.step_of_ne step hj

/-- A call to compile a script anew that returns well has compiled the script itself, or has found
what another caller compiled and put on the shelf after the script was taken off for this call. -/
theorem CallerSteps.recompiled
    (h : e.CallerSteps (.start shelf) (before ++ ⟨i, .idle, .recompile job⟩ :: during ++
      ⟨i, st, .leave (some (.ok status))⟩ :: after) c')
    (call : ∀ s ∈ during, s.caller = i → ∀ result, s.action ≠ .leave result) :
    e.Recompiled i job (before ++ [⟨i, .idle, .recompile job⟩]) during status := by
  obtain ⟨m', h, hl⟩ := h.split
  obtain ⟨m, hb, hd⟩ := h.split
  obtain ⟨m₁, hs, told, hd⟩ := hd.uncons
  obtain ⟨_, -, left, -⟩ := hl.uncons
  have first := hb.concat told
  dsimp only at hs told left first
  rw [hs] at first
  have evicting : m₁.stage i = .evicting job := by
    cases told with
    | recompile => exact put_stage_self ..
  have so := first.recompiling hd evicting call
  cases left with
  | leave hs =>
    rw [hs] at so
    exact so.2 status rfl

/-! ## A call that is overtaken -/

/-- A script for which two callers come. -/
def greetJob : ScriptJob :=
  ⟨"greet", "return 1;", []⟩

/-- What is done in a call to compile a script anew that another caller overtakes: that one comes
for the script right after it was taken off the shelf. -/
def overtaking : List (TakenStep Bool Scripted.Code) :=
  let code := .echo "greet" "return 1;"
  let request := inMemory.scriptRequest greetJob.name greetJob.source greetJob.imports []
  let answer := .answer ⟨true, [], some code⟩
  [⟨true, .evicting greetJob, .evict⟩, ⟨false, .idle, .precompile greetJob⟩,
    ⟨false, .arriving greetJob, .take⟩, ⟨false, .checking greetJob, .check false⟩,
    ⟨false, .resolving greetJob, .ask request⟩,
    ⟨false, .asking greetJob request, .answer request answer⟩,
    ⟨false, .storing greetJob code, .store code⟩,
    ⟨false, .leaving greetJob (some (.ok .compiled)), .leave (some (.ok .compiled))⟩,
    ⟨true, .arriving greetJob, .take⟩, ⟨true, .checking greetJob, .check true⟩]

theorem callerSteps_overtaking :
    ∃ c', inMemory.CallerSteps (.start .empty) ([] ++ ⟨true, .idle, .recompile greetJob⟩ ::
      overtaking ++ [⟨true, .leaving greetJob (some (.ok .cached)),
        .leave (some (.ok .cached))⟩]) c' := by
  have built : codeFrom greetJob.name
      (.answer ⟨true, [], some (.echo "greet" "return 1;" : Scripted.Code)⟩) = .ok _ := rfl
  have held (code : Scripted.Code) :
      (Script.Shelf.empty.insert (greetJob.entry code)).holds greetJob.name greetJob.hash = true := by
    rw [Script.Shelf.holds_iff, Script.Shelf.find?_insert]
    exact ⟨greetJob.entry code, if_pos rfl, rfl⟩
  exact ⟨_,
    .cons (i := true) (.recompile greetJob rfl) <|
    .cons (i := true) (.evict rfl) <|
    .cons (i := false) (.precompile greetJob rfl) <|
    .cons (i := false) (.take rfl nofun) <|
    .cons (i := false) (.miss rfl rfl) <|
    .cons (i := false) (.ask [] rfl) <|
    .cons (i := false) (.built rfl built) <|
    .cons (i := false) (.store rfl) <|
    .cons (i := false) (.leave rfl) <|
    .cons (i := true) (.take rfl (by simp [giveBack, put, hold])) <|
    .cons (i := true) (.hit rfl (held _)) <|
    .cons (i := true) (.leave rfl) <|
    .nil⟩

theorem stays_of_mem_overtaking {s : TakenStep Bool Scripted.Code} (hs : s ∈ overtaking)
    (mine : s.caller = true) (result : Option (Except ScriptError PrecompileStatus)) :
    s.action ≠ .leave result := by
  simp only [overtaking, List.mem_cons, List.not_mem_nil, or_false] at hs
  rcases hs with rfl | rfl | rfl | rfl | rfl | rfl | rfl | rfl | rfl | rfl
  case inr.inr.inr.inr.inr.inr.inr.inl => cases mine
  all_goals exact nofun

/-- The call that is overtaken finds what the other caller compiled. -/
theorem CallerSteps.recompiled_overtaken :
    ∃ c', inMemory.CallerSteps (.start .empty) ([] ++ ⟨true, .idle, .recompile greetJob⟩ ::
        overtaking ++ [⟨true, .leaving greetJob (some (.ok .cached)),
          .leave (some (.ok .cached))⟩]) c' ∧
      (∀ s ∈ overtaking, s.caller = true → ∀ result, s.action ≠ .leave result) ∧
      inMemory.Recompiled true greetJob ([] ++ [⟨true, .idle, .recompile greetJob⟩]) overtaking
        .cached := by
  obtain ⟨c', run⟩ := callerSteps_overtaking
  have stays : ∀ s ∈ overtaking, s.caller = true → ∀ result, s.action ≠ .leave result :=
    fun _ hs mine => stays_of_mem_overtaking hs mine
  exact ⟨c', run, stays, run.recompiled stays⟩

/-- What a call to compile a script anew is for: whenever one returns well, it has had the script
compiled itself. -/
def RecompilesAnew (e : Engine φ σ ρ) (ι : Type) [DecidableEq ι] : Prop :=
  ∀ (shelf : Script.Shelf ρ) (before during after : List (TakenStep ι ρ)) (c' : Callers ι ρ) (i : ι)
    (job : ScriptJob) (st : CallerStage ρ) (status : PrecompileStatus),
    e.CallerSteps (.start shelf) (before ++ ⟨i, .idle, .recompile job⟩ :: during ++
      ⟨i, st, .leave (some (.ok status))⟩ :: after) c' →
    (∀ s ∈ during, s.caller = i → ∀ result, s.action ≠ .leave result) →
    status ≠ .cached ∧ ∃ code, e.Compiles i job code during

/-- It is not what such calls do: one that is overtaken says that the script was on the shelf. -/
theorem not_recompilesAnew : ¬ inMemory.RecompilesAnew Bool := by
  intro h
  obtain ⟨c', run⟩ := callerSteps_overtaking
  exact (h _ _ _ _ _ _ _ _ _ run fun _ hs mine => stays_of_mem_overtaking hs mine).1 rfl

end Engine
end PluginForge
