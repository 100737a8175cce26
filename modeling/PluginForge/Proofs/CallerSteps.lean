/-
Runs of callers with the stage at which each step is taken. The stage says which script the step is
about, so that what happens to one key can be told from what happens to all others.

A step changes the stage of the caller that takes it; of the others it wakes at most those that
sleep. So whoever holds a key stays where it is until it goes on itself, and a caller that has its
result does nothing before it gives that result back.
-/
import PluginForge.Proofs.Callers

namespace PluginForge

variable {ι φ σ ρ : Type}

namespace CallerStage

/-- The job of the call that a caller is in. -/
def job? : CallerStage ρ → Option ScriptJob
  | .idle => none
  | .evicting job | .arriving job | .waiting job | .checking job | .resolving job | .asking job _
  | .storing job _ | .leaving job _ => some job

variable {st : CallerStage ρ} {job : ScriptJob}

@[simp] theorem job?_woken : st.woken.job? = st.job? := by
  cases st <;> rfl

theorem job?_of_held? (h : st.held? = some job) : st.job? = some job := by
  cases st with
  | idle | evicting | arriving | waiting => cases h
  | checking | resolving | asking | storing | leaving => exact h

theorem woken_of_held? (h : st.held? = some job) : st.woken = st := by
  cases st with
  | idle | evicting | arriving | waiting => cases h
  | checking | resolving | asking | storing | leaving => rfl

end CallerStage

/-- A step that is taken: by whom, at which stage, and what is done. -/
structure TakenStep (ι ρ : Type) where
  caller : ι
  stage : CallerStage ρ
  action : CallerAction ρ

/-- What is done in a step, and by whom. -/
def TakenStep.act (s : TakenStep ι ρ) : ι × CallerAction ρ :=
  (s.caller, s.action)

namespace Engine

variable [DecidableEq ι]

open Callers

/-- Steps of callers in any order, each with the stage at which it is taken. -/
inductive CallerSteps (e : Engine φ σ ρ) :
    Callers ι ρ → List (TakenStep ι ρ) → Callers ι ρ → Prop
  | nil {c} : CallerSteps e c [] c
  | cons {c c' c'' i a steps} (step : e.CallerStep i c a c') (rest : CallerSteps e c' steps c'') :
      CallerSteps e c (⟨i, c.stage i, a⟩ :: steps) c''

variable {e : Engine φ σ ρ} {c c' : Callers ι ρ} {i j : ι} {a : CallerAction ρ}

theorem CallerRun.steps {trace : List (ι × CallerAction ρ)} (h : e.CallerRun c trace c') :
    ∃ steps, e.CallerSteps c steps c' ∧ steps.map TakenStep.act = trace := by
  induction h with
  | nil => exact ⟨[], .nil, rfl⟩
  | @cons c _ _ i a _ step _ ih =>
    obtain ⟨steps, hs, rfl⟩ := ih
    exact ⟨⟨i, c.stage i, a⟩ :: steps, .cons step hs, rfl⟩

theorem CallerSteps.run {steps : List (TakenStep ι ρ)} (h : e.CallerSteps c steps c') :
    e.CallerRun c (steps.map TakenStep.act) c' := by
  induction h with
  | nil => exact .nil
  | cons step _ ih => exact .cons step ih

theorem CallerSteps.kept {steps : List (TakenStep ι ρ)} (h : e.CallerSteps c steps c')
    (hc : c.Kept) : c'.Kept :=
  h.run.kept hc

theorem CallerSteps.split {xs ys : List (TakenStep ι ρ)} (h : e.CallerSteps c (xs ++ ys) c') :
    ∃ m, e.CallerSteps c xs m ∧ e.CallerSteps m ys c' := by
  induction xs generalizing c with
  | nil => exact ⟨c, .nil, h⟩
  | cons x xs ih =>
    cases h with
    | cons step rest =>
      obtain ⟨m, hx, hy⟩ := ih rest
      exact ⟨m, .cons step hx, hy⟩

/-! ## What a step leaves alone -/

/-- A step of one caller leaves the others where they are, but that it may wake who sleeps. -/
theorem CallerStep.stage_of_ne (h : e.CallerStep i c a c') (hj : j ≠ i) :
    c'.stage j = c.stage j ∨ c'.stage j = (c.stage j).woken := by
  cases h.effect with
  | goes stage | takes stage =>
    left
    rw [stage, Function.update_of_ne hj]
  | leaves stage =>
    right
    rw [stage, Function.update_of_ne hj, Function.comp_apply]

theorem CallerStep.job?_of_ne (h : e.CallerStep i c a c') (hj : j ≠ i) :
    (c'.stage j).job? = (c.stage j).job? := by
  rcases h.stage_of_ne hj with hs | hs
  · rw [hs]
  · rw [hs, CallerStage.job?_woken]

theorem CallerStep.held?_of_ne (h : e.CallerStep i c a c') (hj : j ≠ i) :
    (c'.stage j).held? = (c.stage j).held? := by
  rcases h.stage_of_ne hj with hs | hs
  · rw [hs]
  · rw [hs, CallerStage.held?_woken]

/-- Whoever holds a key stays where it is while others go on. -/
theorem CallerStep.stage_of_held? {job : ScriptJob} (h : e.CallerStep i c a c') (hj : j ≠ i)
    (hk : (c.stage j).held? = some job) : c'.stage j = c.stage j := by
  rcases h.stage_of_ne hj with hs | hs
  · exact hs
  · rw [hs, CallerStage.woken_of_held? hk]

/-- A caller comes to a script only by being told to compile it, or to compile it anew. -/
theorem CallerStep.enters (h : e.CallerStep i c a c') :
    (∃ job, a = .precompile job ∧ c'.stage i = .arriving job) ∨
      (∃ job, a = .recompile job ∧ c'.stage i = .evicting job) ∨
      (∀ job, c'.stage i ≠ .evicting job) ∧
        ∀ job, (c'.stage i).job? = some job → (c.stage i).job? = some job := by
  cases h with
  | precompile job h => exact .inl ⟨job, rfl, put_stage_self ..⟩
  | recompile job h => exact .inr (.inl ⟨job, rfl, put_stage_self ..⟩)
  | clear name h =>
    refine .inr (.inr ⟨fun job hs => ?_, fun job hs => hs⟩)
    cases h.symm.trans hs
  | unwind h =>
    rw [put_stage_self, CallerStage.job?_of_held? h]
    exact .inr (.inr ⟨nofun, fun _ hs => hs⟩)
  | leave h =>
    rw [giveBack_stage_self]
    exact .inr (.inr ⟨nofun, nofun⟩)
  | evict h | wait h | wake h | take h | hit h | miss h | giveUp _ h | ask _ h | built h
  | failed h | store h =>
    rw [put_stage_self, h]
    exact .inr (.inr ⟨nofun, fun _ hs => hs⟩)

/-- A caller with a result does nothing but give it back, unless it unwinds. -/
theorem CallerStep.of_leaving {job : ScriptJob}
    {result : Option (Except ScriptError PrecompileStatus)} (h : e.CallerStep i c a c')
    (hs : c.stage i = .leaving job result) : a = .leave result ∨ a = .unwind := by
  cases h with
  | leave h =>
    rw [hs] at h
    cases h
    exact .inl rfl
  | unwind => exact .inr rfl
  | clear _ h | precompile _ h | recompile _ h | evict h | wait h | wake h | take h | hit h
  | miss h | giveUp _ h | ask _ h | built h | failed h | store h =>
    rw [hs] at h
    cases h

/-- The next thing that a caller with a result does is to give it back, unless it unwinds. -/
theorem CallerSteps.next_of_leaving {steps : List (TakenStep ι ρ)} {job : ScriptJob}
    {result : Option (Except ScriptError PrecompileStatus)} {s : TakenStep ι ρ}
    (h : e.CallerSteps c steps c') (hj : c.stage j = .leaving job result)
    (hs : steps.find? (·.caller = j) = some s) :
    s.stage = .leaving job result ∧ (s.action = .leave result ∨ s.action = .unwind) := by
  induction h with
  | nil => cases hs
  | @cons c c₁ _ i a _ step _ ih =>
    rw [List.find?_cons] at hs
    by_cases hij : i = j
    · subst hij
      rw [decide_eq_true rfl] at hs
      cases hs
      exact ⟨hj, step.of_leaving hj⟩
    · rw [decide_eq_false hij] at hs
      have held : (c.stage j).held? = some job := by rw [hj]; rfl
      exact ih ((step.stage_of_held? (Ne.symm hij) held).trans hj) hs

end Engine
end PluginForge
