/-
Where the scripts on the shelf come from when many callers come at once. Whatever is found under a
name was there before or has been put there by a step that can be pointed out in the run, and whoever
puts code on the shelf has asked the compiler for it and got it.

The order of what happened is said by sublists: that `[s, t]` is a sublist of the steps of a run says
that `t` was taken at some time after `s`.
-/
import PluginForge.Proofs.CallerSteps
import PluginForge.Proofs.Shelf

namespace PluginForge.Engine

variable {ι φ σ ρ τ : Type}

open Callers

/-! ## Runs, step after step -/

section

variable [DecidableEq ι] {e : Engine φ σ ρ} {c c' c'' : Callers ι ρ} {i : ι} {a : CallerAction ρ}
  {steps : List (TakenStep ι ρ)}

theorem CallerSteps.append {more : List (TakenStep ι ρ)} (h : e.CallerSteps c steps c')
    (h' : e.CallerSteps c' more c'') : e.CallerSteps c (steps ++ more) c'' := by
  induction h with
  | nil => exact h'
  | cons first _ ih => exact .cons first (ih h')

theorem CallerSteps.concat (h : e.CallerSteps c steps c') (step : e.CallerStep i c' a c'') :
    e.CallerSteps c (steps ++ [⟨i, c'.stage i, a⟩]) c'' :=
  h.append (.cons step .nil)

theorem CallerSteps.next {st : CallerStage ρ} (hs : c.stage i = st)
    (step : c.stage i = st → e.CallerStep i c a c') (rest : e.CallerSteps c' steps c'') :
    e.CallerSteps c (⟨i, st, a⟩ :: steps) c'' := by
  subst hs
  exact .cons (step rfl) rest

theorem CallerSteps.uncons {s : TakenStep ι ρ} (h : e.CallerSteps c (s :: steps) c') :
    ∃ m, c.stage s.caller = s.stage ∧ e.CallerStep s.caller c s.action m ∧
      e.CallerSteps m steps c' := by
  cases h with
  | cons step rest => exact ⟨_, rfl, step, rest⟩

/-- Induction along a run from its start, with the last step in front of the eyes. -/
@[elab_as_elim]
theorem CallerSteps.concatInduction
    {motive : ∀ steps c', e.CallerSteps c steps c' → Prop} {steps : List (TakenStep ι ρ)}
    {c' : Callers ι ρ} (h : e.CallerSteps c steps c') (nil : motive [] c .nil)
    (concat : ∀ {done m i a m'} (before : e.CallerSteps c done m) (step : e.CallerStep i m a m'),
      motive done m before → motive (done ++ [⟨i, m.stage i, a⟩]) m' (before.concat step)) :
    motive steps c' h := by
  induction steps using List.reverseRecOn generalizing c' with
  | nil =>
    cases h
    exact nil
  | append_singleton steps s ih =>
    obtain ⟨m, hm, hs⟩ := h.split
    cases hs with
    | cons step rest =>
      cases rest
      exact concat hm step (ih hm)

end

/-! ## What is put on the shelf -/

/-- What is on the shelf under a name either fits `P` or has been put there by a caller after the
steps `first` were taken, one after the other; `note` is the form in which steps are noted. -/
def PutSince (note : TakenStep ι ρ → τ) (first : List τ) (P : Script.Entry ρ → Prop) (name : String)
    (done : List τ) (shelf : Script.Shelf ρ) : Prop :=
  ∀ entry, shelf.find? name = some entry → P entry ∨
    ∃ (j : ι) (job : ScriptJob) (code : ρ), entry = job.entry code ∧ job.key = Script.key name ∧
      (first ++ [note ⟨j, .storing job code, .store code⟩]).Sublist done

section

variable {note : TakenStep ι ρ → τ} {first done done' : List τ} {P : Script.Entry ρ → Prop}
  {name : String} {shelf : Script.Shelf ρ}

theorem PutSince.mono (h : PutSince note first P name done shelf) (later : done.Sublist done') :
    PutSince note first P name done' shelf := by
  intro entry found
  rcases h entry found with hp | ⟨j, job, code, he, hk, hs⟩
  · exact .inl hp
  · exact .inr ⟨j, job, code, he, hk, hs.trans later⟩

variable [DecidableEq ι] {e : Engine φ σ ρ} {c c' : Callers ι ρ} {i : ι} {a : CallerAction ρ}

/-- What a step puts on the shelf is what its caller is about to put there. -/
theorem CallerStep.find?_shelf {entry : Script.Entry ρ} (h : e.CallerStep i c a c')
    (found : c'.shelf.find? name = some entry) :
    c.shelf.find? name = some entry ∨
      ∃ job code, c.stage i = .storing job code ∧ a = .store code ∧ entry = job.entry code ∧
        job.key = Script.key name := by
  cases h with
  | clear n h =>
    rw [Script.Shelf.find?_clear] at found
    cases n with
    | none => cases found
    | some n =>
      dsimp only at found
      split at found
      · cases found
      · exact .inl found
  | @evict job h =>
    have found : (c.shelf.erase job.name).find? name = some entry := found
    rw [Script.Shelf.find?_erase] at found
    split at found
    · cases found
    · exact .inl found
  | @store job code h =>
    have found : (c.shelf.insert (job.entry code)).find? name = some entry := found
    rw [Script.Shelf.find?_insert] at found
    split at found
    · rename_i hk
      cases found
      exact .inr ⟨job, code, h, rfl, rfl, hk⟩
    · exact .inl found
  | precompile | recompile | wait | wake | take | hit | miss | giveUp | ask | built | failed
  | unwind | leave => exact .inl found

theorem PutSince.step (h : PutSince note first P name done c.shelf) (began : first.Sublist done)
    (step : e.CallerStep i c a c') :
    PutSince note first P name (done ++ [note ⟨i, c.stage i, a⟩]) c'.shelf := by
  intro entry found
  rcases step.find?_shelf found with found | ⟨job, code, hs, rfl, he, hk⟩
  · exact h.mono (List.sublist_append_left ..) entry found
  · refine .inr ⟨i, job, code, he, hk, ?_⟩
    rw [hs]
    exact began.append (List.Sublist.refl _)

end

/-! ## Who asked the compiler -/

/-- In these steps the caller `j` asks the compiler for a script and gets code for it. -/
def Fetches (e : Engine φ σ ρ) (j : ι) (job : ScriptJob) (code : ρ) (steps : List (TakenStep ι ρ)) :
    Prop :=
  ∃ libraries answer,
    let request := e.scriptRequest job.name job.source job.imports libraries
    codeFrom job.name answer = .ok code ∧
      List.Sublist [⟨j, .resolving job, .ask request⟩, ⟨j, .asking job request, .answer request answer⟩]
        steps

/-- In these steps the caller `j` asks the compiler for a script, gets code for it and puts that on
the shelf. -/
def Compiles (e : Engine φ σ ρ) (j : ι) (job : ScriptJob) (code : ρ)
    (steps : List (TakenStep ι ρ)) : Prop :=
  ∃ libraries answer,
    let request := e.scriptRequest job.name job.source job.imports libraries
    codeFrom job.name answer = .ok code ∧
      List.Sublist [⟨j, .resolving job, .ask request⟩, ⟨j, .asking job request, .answer request answer⟩,
        ⟨j, .storing job code, .store code⟩] steps

/-- What a caller must have done to be in a call of the compiler or to have code. -/
def Backed (e : Engine φ σ ρ) (j : ι) (steps : List (TakenStep ι ρ)) : CallerStage ρ → Prop
  | .asking job request =>
    ∃ libraries, request = e.scriptRequest job.name job.source job.imports libraries ∧
      List.Sublist [⟨j, .resolving job, .ask request⟩] steps
  | .storing job code => e.Fetches j job code steps
  | _ => True

section

variable {e : Engine φ σ ρ} {j : ι} {job : ScriptJob}
  {code : ρ} {steps steps' : List (TakenStep ι ρ)} {st : CallerStage ρ}

theorem Fetches.mono (h : e.Fetches j job code steps) (later : steps.Sublist steps') :
    e.Fetches j job code steps' := by
  obtain ⟨libraries, answer, hc, hs⟩ := h
  exact ⟨libraries, answer, hc, hs.trans later⟩

theorem Fetches.store (h : e.Fetches j job code steps) :
    e.Compiles j job code (steps ++ [⟨j, .storing job code, .store code⟩]) := by
  obtain ⟨libraries, answer, hc, hs⟩ := h
  exact ⟨libraries, answer, hc, hs.append (List.Sublist.refl [_])⟩

theorem Compiles.mono (h : e.Compiles j job code steps) (later : steps.Sublist steps') :
    e.Compiles j job code steps' := by
  obtain ⟨libraries, answer, hc, hs⟩ := h
  exact ⟨libraries, answer, hc, hs.trans later⟩

theorem Backed.mono (h : e.Backed j steps st) (later : steps.Sublist steps') :
    e.Backed j steps' st := by
  cases st with
  | asking job request =>
    obtain ⟨libraries, hr, hs⟩ := h
    exact ⟨libraries, hr, hs.trans later⟩
  | storing job code => exact Fetches.mono h later
  | idle | evicting | arriving | waiting | checking | resolving | leaving => trivial

theorem Backed.woken (h : e.Backed j steps st) : e.Backed j steps st.woken := by
  cases st with
  | waiting => trivial
  | asking | storing => exact h
  | idle | evicting | arriving | checking | resolving | leaving => trivial

variable [DecidableEq ι] {c c' : Callers ι ρ} {i : ι} {a : CallerAction ρ}

theorem Backed.step (h : e.Backed j steps (c.stage j)) (step : e.CallerStep i c a c') :
    e.Backed j (steps ++ [⟨i, c.stage i, a⟩]) (c'.stage j) := by
  have later : steps.Sublist (steps ++ [⟨i, c.stage i, a⟩]) := List.sublist_append_left ..
  by_cases hj : j = i
  · subst hj
    cases step with
    | clear name hs => exact h.mono later
    | ask libraries hs =>
      rw [put_stage_self, hs]
      exact ⟨libraries, rfl, List.sublist_append_right ..⟩
    | built hs result =>
      rw [hs] at h
      obtain ⟨libraries, rfl, asked⟩ := h
      rw [put_stage_self, hs]
      exact ⟨libraries, _, result, asked.append (List.Sublist.refl [_])⟩
    | leave hs =>
      rw [giveBack_stage_self]
      trivial
    | precompile | recompile | evict | wait | wake | take | hit | miss | giveUp | failed | store
    | unwind =>
      rw [put_stage_self]
      trivial
  · rcases step.stage_of_ne hj with hs | hs
    · rw [hs]
      exact h.mono later
    · rw [hs]
      exact (h.mono later).woken

/-- Whoever is in a call of the compiler, or has code, asked for it in the run. -/
theorem CallerSteps.backed (h : e.CallerSteps c steps c') (fresh : e.Backed j [] (c.stage j)) :
    e.Backed j steps (c'.stage j) := by
  induction h using CallerSteps.concatInduction with
  | nil => exact fresh
  | concat _ step ih => exact ih.step step

/-- Whoever puts code on the shelf got it from the compiler before, in a run that begins with nobody
in a call. -/
theorem CallerSteps.compiles {shelf : Script.Shelf ρ} (h : e.CallerSteps (.start shelf) steps c')
    (stored : ⟨j, .storing job code, .store code⟩ ∈ steps) : e.Compiles j job code steps := by
  induction h using CallerSteps.concatInduction with
  | nil => cases stored
  | @concat done m i a m' before step ih =>
    rcases List.mem_append.1 stored with stored | stored
    · exact (ih stored).mono (List.sublist_append_left ..)
    · obtain ⟨rfl, hs, rfl⟩ := TakenStep.mk.inj (List.mem_singleton.1 stored)
      have backed := before.backed (j := j) trivial
      rw [← hs] at backed ⊢
      exact Fetches.store backed

theorem CallerSteps.putSince {shelf : Script.Shelf ρ} (h : e.CallerSteps (.start shelf) steps c')
    (name : String) : PutSince id [] (shelf.find? name = some ·) name steps c'.shelf := by
  induction h using CallerSteps.concatInduction with
  | nil =>
    intro entry found
    exact .inl found
  | concat _ step ih => exact ih.step (List.nil_sublist _) step

/-- What is on the shelf was there before anybody began, or somebody had the compiler give code for it
and put it there. -/
theorem CallerSteps.origin {shelf : Script.Shelf ρ} {name : String} {entry : Script.Entry ρ}
    (h : e.CallerSteps (.start shelf) steps c') (found : c'.shelf.find? name = some entry) :
    shelf.find? name = some entry ∨
      ∃ (j : ι) (job : ScriptJob) (code : ρ), entry = job.entry code ∧ e.Compiles j job code steps := by
  rcases h.putSince name entry found with old | ⟨j, job, code, rfl, -, stored⟩
  · exact .inl old
  · exact .inr ⟨j, job, code, rfl, h.compiles (stored.subset List.mem_cons_self)⟩

end

end PluginForge.Engine
