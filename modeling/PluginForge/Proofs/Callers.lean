/-
Callers of the engine's scripts that come at once keep to their keys, in whatever order their steps
are taken: a key is among those that are held exactly if there is one caller that holds it, so the
compiler is never asked for two scripts of one key at a time; whoever sleeps does so for a key whose
holder is awake and can go on, so no callers block each other; and once nobody compiles, no key is
held, also after failures of the compiler and after callers that unwound.

All this is read off from one invariant. A step changes who holds what in three ways only
(`Callers.Effect`), and each of them keeps it.
-/
import PluginForge.Engine.Callers
import PluginForge.Proofs.Accounting

namespace PluginForge

variable {ι φ σ ρ : Type}

namespace CallerStage

variable (st : CallerStage ρ)

theorem key?_eq_some {k : String} :
    st.key? = some k ↔ ∃ job, st.held? = some job ∧ job.key = k := by
  simp [key?]

@[simp] theorem held?_woken : st.woken.held? = st.held? := by
  cases st <;> rfl

@[simp] theorem key?_woken : st.woken.key? = st.key? := by
  simp [key?]

theorem woken_ne_waiting (job : ScriptJob) : st.woken ≠ .waiting job := by
  cases st <;> exact nofun

theorem eq_of_woken {st : CallerStage ρ} {job : ScriptJob} (h : st.woken = .arriving job)
    (awake : st ≠ .waiting job) : st = .arriving job := by
  cases st with
  | waiting job' =>
    cases h
    exact absurd rfl awake
  | _ => exact h

/-- How many steps by which a caller goes on there are at most until the end of its call. -/
def stepsLeft : CallerStage ρ → Nat
  | .idle => 0
  | .leaving .. => 1
  | .storing .. => 2
  | .asking .. => 3
  | .resolving _ => 4
  | .checking _ => 5
  | .arriving _ | .waiting _ => 6
  | .evicting _ => 7

theorem isInside_of_held {job : ScriptJob} (h : st.held? = some job) : st.isInside = true := by
  cases st with
  | idle | evicting | arriving | waiting => cases h
  | checking | resolving | asking | storing | leaving => rfl

end CallerStage

namespace Callers

/-! ## Who holds what -/

section

variable (c : Callers ι ρ) (i : ι)

/-- The caller `i` holds the key `k`. -/
def Holds (k : String) : Prop :=
  (c.stage i).key? = some k

/-- The caller `i` sleeps until the key `k` is given back. -/
def WaitsFor (k : String) : Prop :=
  ∃ job, c.stage i = .waiting job ∧ job.key = k

/-- The caller `i` is in a call of the compiler for a script of the key `k`. -/
def Asks (k : String) : Prop :=
  ∃ job request, c.stage i = .asking job request ∧ job.key = k

variable {c i} {k k' : String}

theorem Asks.holds (h : c.Asks i k) : c.Holds i k := by
  obtain ⟨job, request, hs, rfl⟩ := h
  simp [Holds, hs, CallerStage.key?, CallerStage.held?]

theorem Holds.not_waitsFor (h : c.Holds i k) : ¬ c.WaitsFor i k' := by
  rintro ⟨job, hs, -⟩
  simp [Holds, hs, CallerStage.key?, CallerStage.held?] at h

theorem Holds.isInside (h : c.Holds i k) : (c.stage i).isInside = true := by
  obtain ⟨job, hj, -⟩ := (c.stage i).key?_eq_some.1 h
  exact (c.stage i).isInside_of_held hj

end

/-- What the steps keep: a key is among the held ones if and only if some caller holds it, which no
other one does then, and whoever sleeps does so for a held key. -/
structure Kept (c : Callers ι ρ) : Prop where
  listed : ∀ i k, c.Holds i k → k ∈ c.compiling
  held : ∀ k ∈ c.compiling, ∃ i, c.Holds i k
  alone : ∀ i j k, c.Holds i k → c.Holds j k → i = j
  waits : ∀ i k, c.WaitsFor i k → k ∈ c.compiling

theorem kept_start (shelf : Script.Shelf ρ) : (start shelf : Callers ι ρ).Kept where
  listed _ _ h := by cases h
  held _ h := by cases h
  alone _ _ _ h := by cases h
  waits _ _ h := by
    obtain ⟨_, h, -⟩ := h
    cases h

/-! ## What a step does to the keys -/

variable [DecidableEq ι] {c c' : Callers ι ρ} {i : ι}

theorem put_stage_self (c : Callers ι ρ) (i : ι) (st : CallerStage ρ) : (c.put i st).stage i = st :=
  Function.update_self ..

theorem giveBack_stage_self (c : Callers ι ρ) (i : ι) (k : String) :
    (c.giveBack i k).stage i = .idle :=
  Function.update_self ..

/-- How a step of the caller `i` changes who holds what: the caller goes on with what it holds, it
takes a key that nobody holds, or it gives its key back and wakes whoever sleeps. -/
inductive Effect (i : ι) (c c' : Callers ι ρ) : Prop
  | goes {st} (stage : c'.stage = Function.update c.stage i st)
      (compiling : c'.compiling = c.compiling) (same : st.key? = (c.stage i).key?)
      (waits : ∀ job, st = .waiting job → job.key ∈ c.compiling)
  | takes {st k} (stage : c'.stage = Function.update c.stage i st)
      (compiling : c'.compiling = k :: c.compiling) (before : (c.stage i).key? = none)
      (after : st.key? = some k) (free : k ∉ c.compiling)
  | leaves {k} (stage : c'.stage = Function.update (CallerStage.woken ∘ c.stage) i .idle)
      (compiling : c'.compiling = c.compiling.filter (· ≠ k)) (before : (c.stage i).key? = some k)

theorem Kept.goes {st : CallerStage ρ} (h : c.Kept)
    (stage : c'.stage = Function.update c.stage i st) (compiling : c'.compiling = c.compiling)
    (same : st.key? = (c.stage i).key?)
    (waits : ∀ job, st = .waiting job → job.key ∈ c.compiling) : c'.Kept := by
  have holds (j k) : c'.Holds j k ↔ c.Holds j k := by
    unfold Holds
    by_cases hj : j = i
    · rw [stage, hj, Function.update_self, same]
    · rw [stage, Function.update_of_ne hj]
  constructor
  case listed =>
    intro j k hk
    rw [compiling]
    exact h.listed j k ((holds j k).1 hk)
  case held =>
    intro k hk
    obtain ⟨j, hj⟩ := h.held k (compiling ▸ hk)
    exact ⟨j, (holds j k).2 hj⟩
  case alone =>
    intro j j' k hk hk'
    exact h.alone j j' k ((holds j k).1 hk) ((holds j' k).1 hk')
  case waits =>
    rintro j k ⟨job, hs, rfl⟩
    rw [compiling]
    by_cases hj : j = i
    · rw [stage, hj, Function.update_self] at hs
      exact waits job hs
    · rw [stage, Function.update_of_ne hj] at hs
      exact h.waits j job.key ⟨job, hs, rfl⟩

theorem Kept.takes {st : CallerStage ρ} {k : String} (h : c.Kept)
    (stage : c'.stage = Function.update c.stage i st) (compiling : c'.compiling = k :: c.compiling)
    (before : (c.stage i).key? = none) (after : st.key? = some k) (free : k ∉ c.compiling) :
    c'.Kept := by
  have self : c'.Holds i k := by rw [Holds, stage, Function.update_self, after]
  have other {j k'} (hj : j ≠ i) : c'.Holds j k' ↔ c.Holds j k' := by
    rw [Holds, stage, Function.update_of_ne hj, Holds]
  -- Nobody else holds `k`, since it was not among the held keys.
  have mine {j} (hk : c'.Holds j k) : j = i := by
    by_contra hj
    exact free (h.listed j k ((other hj).1 hk))
  have only {k'} (hk : c'.Holds i k') : k' = k := Option.some.inj (hk.symm.trans self)
  constructor
  case listed =>
    intro j k' hk
    rw [compiling]
    by_cases hj : j = i
    · subst hj
      rw [only hk]
      exact List.mem_cons_self
    · exact List.mem_cons_of_mem k (h.listed j k' ((other hj).1 hk))
  case held =>
    intro k' hk
    rw [compiling, List.mem_cons] at hk
    rcases hk with rfl | hk
    · exact ⟨i, self⟩
    · obtain ⟨j, hj⟩ := h.held k' hk
      have hji : j ≠ i := by
        rintro rfl
        cases before.symm.trans hj
      exact ⟨j, (other hji).2 hj⟩
  case alone =>
    intro j j' k' hk hk'
    by_cases hj : j = i
    · subst hj
      exact (mine (only hk ▸ hk')).symm
    · by_cases hj' : j' = i
      · subst hj'
        exact mine (only hk' ▸ hk)
      · exact h.alone j j' k' ((other hj).1 hk) ((other hj').1 hk')
  case waits =>
    rintro j k' ⟨job, hs, rfl⟩
    rw [compiling]
    by_cases hj : j = i
    · rw [stage, hj, Function.update_self] at hs
      rw [hs] at after
      cases after
    · rw [stage, Function.update_of_ne hj] at hs
      exact List.mem_cons_of_mem k (h.waits j job.key ⟨job, hs, rfl⟩)

theorem Kept.leaves {k : String} (h : c.Kept)
    (stage : c'.stage = Function.update (CallerStage.woken ∘ c.stage) i .idle)
    (compiling : c'.compiling = c.compiling.filter (· ≠ k)) (before : (c.stage i).key? = some k) :
    c'.Kept := by
  have self {k'} : ¬ c'.Holds i k' := by
    rw [Holds, stage, Function.update_self]
    exact nofun
  have other {j k'} (hj : j ≠ i) : c'.Holds j k' ↔ c.Holds j k' := by
    rw [Holds, stage, Function.update_of_ne hj, Function.comp_apply, CallerStage.key?_woken, Holds]
  have ne {j k'} (hk : c'.Holds j k') : j ≠ i := by
    rintro rfl
    exact self hk
  constructor
  case listed =>
    intro j k' hk
    have hc := (other (ne hk)).1 hk
    have hkk : k' ≠ k := by
      rintro rfl
      exact ne hk (h.alone j i k' hc before)
    simpa [compiling, hkk] using h.listed j k' hc
  case held =>
    intro k' hk
    simp only [compiling, ne_eq, decide_not, List.mem_filter, Bool.not_eq_eq_eq_not, Bool.not_true,
      decide_eq_false_iff_not] at hk
    obtain ⟨j, hj⟩ := h.held k' hk.1
    have hji : j ≠ i := by
      rintro rfl
      exact hk.2 (Option.some.inj (hj.symm.trans before))
    exact ⟨j, (other hji).2 hj⟩
  case alone =>
    intro j j' k' hk hk'
    exact h.alone j j' k' ((other (ne hk)).1 hk) ((other (ne hk')).1 hk')
  case waits =>
    rintro j k' ⟨job, hs, -⟩
    by_cases hj : j = i
    · rw [stage, hj, Function.update_self] at hs
      cases hs
    · rw [stage, Function.update_of_ne hj] at hs
      exact absurd hs ((c.stage j).woken_ne_waiting job)

theorem Effect.kept (he : Effect i c c') (h : c.Kept) : c'.Kept := by
  cases he with
  | goes stage compiling same waits => exact h.goes stage compiling same waits
  | takes stage compiling before after free => exact h.takes stage compiling before after free
  | leaves stage compiling before => exact h.leaves stage compiling before

/-- A caller goes on to a stage at which it holds what it held, and does not sleep. -/
theorem Effect.put {st : CallerStage ρ} (shelf : Script.Shelf ρ)
    (same : st.key? = (c.stage i).key?) (awake : ∀ job, st ≠ .waiting job) :
    Effect i c ({ c with shelf }.put i st) :=
  .goes rfl rfl same fun job hw => absurd hw (awake job)

end Callers

namespace Engine

variable [DecidableEq ι] {e : Engine φ σ ρ} {c c' : Callers ι ρ} {i : ι} {a : CallerAction ρ}
  {trace : List (ι × CallerAction ρ)}

open Callers

theorem CallerStep.effect (h : e.CallerStep i c a c') : Effect i c c' := by
  have keeps {st : CallerStage ρ} (hs : c.stage i = st) {st' : CallerStage ρ}
      (hk : st'.key? = st.key?) : st'.key? = (c.stage i).key? := by rw [hs, hk]
  cases h with
  | clear name h =>
    refine .goes (Function.update_eq_self i c.stage).symm rfl rfl fun job hw => ?_
    cases h.symm.trans hw
  | precompile job h => exact .put c.shelf (keeps h rfl) nofun
  | recompile job h => exact .put c.shelf (keeps h rfl) nofun
  | evict h => exact .put _ (keeps h rfl) nofun
  | wait h busy =>
    refine .goes rfl rfl (keeps h rfl) fun job hw => ?_
    cases hw
    exact busy
  | wake h => exact .put c.shelf (keeps h rfl) nofun
  | take h free => exact .takes rfl rfl (by rw [h]; rfl) rfl free
  | hit h held => exact .put c.shelf (keeps h rfl) nofun
  | miss h held => exact .put c.shelf (keeps h rfl) nofun
  | giveUp err h => exact .put c.shelf (keeps h rfl) nofun
  | ask libraries h => exact .put c.shelf (keeps h rfl) nofun
  | built h result => exact .put c.shelf (keeps h rfl) nofun
  | failed h result => exact .put c.shelf (keeps h rfl) nofun
  | store h => exact .put _ (keeps h rfl) nofun
  | unwind h => exact .put c.shelf ((congrArg (Option.map ScriptJob.key) h).symm) nofun
  | leave h => exact .leaves rfl rfl (by rw [h]; rfl)

theorem CallerRun.kept (h : e.CallerRun c trace c') (hc : c.Kept) : c'.Kept := by
  induction h with
  | nil => exact hc
  | cons step _ ih => exact ih (step.effect.kept hc)

theorem CallersReach.kept (h : e.CallersReach c) : c.Kept := by
  obtain ⟨shelf, trace, hr⟩ := h
  exact hr.kept (kept_start shelf)

/-! ## Nobody blocks for ever -/

theorem CallerRun.append {c'' : Callers ι ρ} {trace' : List (ι × CallerAction ρ)}
    (h : e.CallerRun c trace c') (h' : e.CallerRun c' trace' c'') :
    e.CallerRun c (trace ++ trace') c'' := by
  induction h with
  | nil => exact h'
  | cons step _ ih => exact .cons step (ih h')

/-- A step by which a caller goes on leaves it fewer such steps until the end of its call. -/
theorem CallerStep.stepsLeft_lt (h : e.CallerStep i c a c') (on : a.goesOn = true) :
    (c'.stage i).stepsLeft < (c.stage i).stepsLeft := by
  cases h with
  | clear | precompile | recompile | wait | wake | unwind => cases on
  | leave h =>
    rw [h, giveBack_stage_self]
    exact Nat.zero_lt_one
  | evict h | take h | hit h | miss h | giveUp _ h | ask _ h | built h | failed h | store h =>
    rw [h, put_stage_self]
    simp [CallerStage.stepsLeft]

/-- The caller `i` can take a step by which it goes on. -/
def CanGoOn (e : Engine φ σ ρ) (c : Callers ι ρ) (i : ι) : Prop :=
  ∃ a c', a.goesOn = true ∧ e.CallerStep i c a c'

/-- In a call of the compiler, a caller goes on with any answer. -/
theorem exists_step_answer {job : ScriptJob} {request : ScriptRequest}
    (h : c.stage i = .asking job request) (answer : Outcome (ScriptBuild ρ)) :
    ∃ c', e.CallerStep i c (.answer request answer) c' := by
  cases hr : codeFrom job.name answer with
  | ok code => exact ⟨_, .built h hr⟩
  | error err => exact ⟨_, .failed h hr⟩

/-- Whoever holds a key can go on. -/
theorem canGoOn_of_holds {k : String} (h : c.Holds i k) : e.CanGoOn c i := by
  obtain ⟨job, hj, rfl⟩ := (c.stage i).key?_eq_some.1 h
  cases hs : c.stage i <;> rw [hs] at hj <;> cases hj
  case checking =>
    cases held : c.shelf.holds job.name job.hash with
    | true => exact ⟨_, _, rfl, .hit hs held⟩
    | false => exact ⟨_, _, rfl, .miss hs held⟩
  case resolving => exact ⟨_, _, rfl, .ask [] hs⟩
  case asking request =>
    obtain ⟨c', step⟩ := e.exists_step_answer hs (.crash none)
    exact ⟨_, c', rfl, step⟩
  case storing code => exact ⟨_, _, rfl, .store hs⟩
  case leaving result => exact ⟨_, _, rfl, .leave hs⟩

/-- Steps that bring the callers who take them nearer to the end of their calls lead from one state
to another. -/
def GoesOn (e : Engine φ σ ρ) (c c' : Callers ι ρ) : Prop :=
  ∃ trace, e.CallerRun c trace c' ∧ ∀ x ∈ trace, x.2.goesOn = true

theorem GoesOn.refl : e.GoesOn c c :=
  ⟨[], .nil, nofun⟩

theorem GoesOn.step {c'' : Callers ι ρ} (step : e.CallerStep i c a c') (on : a.goesOn = true)
    (h : e.GoesOn c' c'') : e.GoesOn c c'' := by
  obtain ⟨trace, hr, ht⟩ := h
  exact ⟨(i, a) :: trace, .cons step hr, List.forall_mem_cons.2 ⟨on, ht⟩⟩

theorem GoesOn.trans {c'' : Callers ι ρ} (h : e.GoesOn c c') (h' : e.GoesOn c' c'') :
    e.GoesOn c c'' := by
  obtain ⟨trace, hr, ht⟩ := h
  obtain ⟨trace', hr', ht'⟩ := h'
  exact ⟨trace ++ trace', hr.append hr', List.forall_mem_append.2 ⟨ht, ht'⟩⟩

/-- A holder can go on until it has given its key back and woken whoever sleeps. -/
def GivesBack (e : Engine φ σ ρ) (c : Callers ι ρ) (i : ι) (k : String) : Prop :=
  ∃ c', e.GoesOn c c' ∧ c'.compiling = c.compiling.filter (· ≠ k) ∧
    c'.stage = Function.update (CallerStage.woken ∘ c.stage) i .idle

theorem GivesBack.step {st : CallerStage ρ} {k : String} (step : e.CallerStep i c a c')
    (on : a.goesOn = true) (stage : c'.stage = Function.update c.stage i st)
    (compiling : c'.compiling = c.compiling) (h : e.GivesBack c' i k) : e.GivesBack c i k := by
  obtain ⟨c'', hg, hc, hs⟩ := h
  refine ⟨c'', .step step on hg, hc.trans (by rw [compiling]), ?_⟩
  rw [hs, stage, Function.comp_update, Function.update_idem]

/-- Whoever holds a key can go on and give it back: it can always go on, which leaves it fewer steps
each time, and the key is its own until it gives it back. -/
theorem givesBack_of_holds {k : String} (h : c.Holds i k) : e.GivesBack c i k := by
  induction hn : (c.stage i).stepsLeft using Nat.strongRecOn generalizing c with
  | ind n ih =>
    obtain ⟨a, c', on, step⟩ := e.canGoOn_of_holds h
    have lt := step.stepsLeft_lt on
    cases step.effect with
    | goes stage compiling same =>
      have h' : c'.Holds i k := by
        rw [Holds, stage, Function.update_self, same]
        exact h
      exact .step step on stage compiling (ih _ (hn ▸ lt) h' rfl)
    | takes _ _ before => cases before.symm.trans h
    | leaves stage compiling before =>
      obtain rfl := Option.some.inj (before.symm.trans h)
      exact ⟨c', .step step on .refl, compiling, stage⟩

variable {job : ScriptJob}

/-- A caller can come to the end of its call if it and the others go on. -/
def Ends (e : Engine φ σ ρ) (c : Callers ι ρ) (i : ι) : Prop :=
  ∃ c', e.GoesOn c c' ∧ c'.stage i = .idle

theorem ends_of_holds {k : String} (h : c.Holds i k) : e.Ends c i := by
  obtain ⟨c', hg, -, hs⟩ := e.givesBack_of_holds h
  refine ⟨c', hg, ?_⟩
  rw [hs, Function.update_self]

theorem ends_arriving_free (h : c.stage i = .arriving job) (free : job.key ∉ c.compiling) :
    e.Ends c i := by
  have holds : ((c.hold job.key).put i (.checking job)).Holds i job.key := by
    rw [Holds, put_stage_self]
    rfl
  obtain ⟨c', hg, hs⟩ := e.ends_of_holds holds
  exact ⟨c', .step (.take h free) rfl hg, hs⟩

/-- Once the holder of its key has given it back, whoever has come for it can take it. -/
theorem ends_of_woken_arriving (hk : c.Kept) (h : (c.stage i).woken = .arriving job) :
    e.Ends c i := by
  by_cases busy : job.key ∈ c.compiling
  · obtain ⟨j, hj⟩ := hk.held job.key busy
    have hij : i ≠ j := by
      rintro rfl
      rw [Holds, ← CallerStage.key?_woken, h] at hj
      cases hj
    obtain ⟨c₁, hg₁, hc₁, hs₁⟩ := e.givesBack_of_holds hj
    have arriving : c₁.stage i = .arriving job := by
      rw [hs₁, Function.update_of_ne hij, Function.comp_apply, h]
    have free : job.key ∉ c₁.compiling := by simp [hc₁]
    obtain ⟨c₂, hg₂, hs₂⟩ := e.ends_arriving_free arriving free
    exact ⟨c₂, hg₁.trans hg₂, hs₂⟩
  · have awake : c.stage i ≠ .waiting job := fun hs => busy (hk.waits i job.key ⟨job, hs, rfl⟩)
    exact ends_arriving_free (CallerStage.eq_of_woken h awake) busy

theorem ends (hk : c.Kept) (i : ι) : e.Ends c i := by
  cases hs : c.stage i with
  | idle => exact ⟨c, .refl, hs⟩
  | evicting job =>
    have step : e.CallerStep i c .evict _ := .evict hs
    have arriving : ({ c with shelf := c.shelf.erase job.name }.put i (.arriving job)).stage i =
        .arriving job := put_stage_self ..
    obtain ⟨c', hg, hs'⟩ := e.ends_of_woken_arriving (step.effect.kept hk)
      (congrArg CallerStage.woken arriving)
    exact ⟨c', .step step rfl hg, hs'⟩
  | arriving job => exact ends_of_woken_arriving hk (congrArg CallerStage.woken hs)
  | waiting job => exact ends_of_woken_arriving hk (congrArg CallerStage.woken hs)
  | checking job | resolving job | asking job _ | storing job _ | leaving job _ =>
    exact ends_of_holds (k := job.key) (by rw [Holds, hs]; rfl)

/-! ## Keys in order -/

/-- The callers share the keys in an orderly way. -/
structure Orderly (e : Engine φ σ ρ) (c : Callers ι ρ) : Prop where
  /-- A key is among those that are held if and only if exactly one caller holds it. -/
  held_iff : ∀ k, k ∈ c.compiling ↔ ∃! i, c.Holds i k
  /-- No two callers hold one key. -/
  holds_alone : ∀ i j k, c.Holds i k → c.Holds j k → i = j
  /-- No two callers ask the compiler for scripts of one key. -/
  asks_alone : ∀ i j k, c.Asks i k → c.Asks j k → i = j
  /-- Whoever sleeps does so for a key whose holder does not sleep and can go on. -/
  holder_awake : ∀ i k, c.WaitsFor i k →
    ∃ j, c.Holds j k ∧ (∀ k', ¬ c.WaitsFor j k') ∧ e.CanGoOn c j
  /-- There are no callers who all sleep for keys that are held among themselves. -/
  no_circle : ∀ D : ι → Prop,
    (∀ i, D i → ∃ k, c.WaitsFor i k ∧ ∃ j, D j ∧ c.Holds j k) → ∀ i, ¬ D i
  /-- Every caller can come to the end of its call. -/
  ends : ∀ i, e.Ends c i
  /-- Once nobody has a script compiled, no key is held. -/
  empty : (∀ i, (c.stage i).isInside = false) → c.compiling = []

theorem orderly_of_kept (h : c.Kept) : e.Orderly c where
  held_iff k := by
    constructor
    · intro hk
      obtain ⟨i, hi⟩ := h.held k hk
      exact ⟨i, hi, fun j hj => h.alone j i k hj hi⟩
    · rintro ⟨i, hi, -⟩
      exact h.listed i k hi
  holds_alone := h.alone
  asks_alone i j k hi hj := h.alone i j k hi.holds hj.holds
  holder_awake i k hw := by
    obtain ⟨j, hj⟩ := h.held k (h.waits i k hw)
    exact ⟨j, hj, fun _ => hj.not_waitsFor, canGoOn_of_holds hj⟩
  no_circle D hD i hi := by
    obtain ⟨k, -, j, hj, held⟩ := hD i hi
    obtain ⟨k', hw, -⟩ := hD j hj
    exact held.not_waitsFor hw
  ends := ends h
  empty out := by
    rw [List.eq_nil_iff_forall_not_mem]
    intro k hk
    obtain ⟨i, hi⟩ := h.held k hk
    exact Bool.false_ne_true ((out i).symm.trans hi.isInside)

/-- Whatever callers do in whatever order, they share the keys in an orderly way. -/
theorem CallersReach.orderly (h : e.CallersReach c) : e.Orderly c :=
  orderly_of_kept h.kept

/-- Two callers come for one script under two spellings of its name: while the first one is in a
call of the compiler, the other one sleeps. -/
theorem CallersReach.orderly_two_spellings :
    ∃ c : Callers Bool Scripted.Code, inMemory.CallersReach c ∧ c.Asks true "greet" ∧
      c.WaitsFor false "greet" ∧ inMemory.Orderly c := by
  let one : ScriptJob := ⟨"Greet", "return 1;", []⟩
  let other : ScriptJob := ⟨" greet", "return 2;", []⟩
  have hone : one.key = "greet" := by decide +kernel
  have hother : other.key = "greet" := by decide +kernel
  have run : inMemory.CallerRun (.start .empty) _ _ :=
    .cons (i := true) (.precompile one rfl) <|
    .cons (i := true) (.take (put_stage_self ..) nofun) <|
    .cons (i := true) (.miss (put_stage_self ..) rfl) <|
    .cons (i := true) (.ask [] (put_stage_self ..)) <|
    .cons (i := false) (.precompile other rfl) <|
    .cons (i := false) (.wait (put_stage_self ..) (by
      rw [hother, ← hone]
      exact List.mem_cons_self)) <|
    .nil
  have reach : inMemory.CallersReach _ := ⟨_, _, run⟩
  exact ⟨_, reach, ⟨one, _, rfl, hone⟩, ⟨other, rfl, hother⟩, reach.orderly⟩

end Engine
end PluginForge
