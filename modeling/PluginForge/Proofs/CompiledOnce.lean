/-
Many callers that want one content under one key have it compiled once. As long as nobody takes the
script off the shelf or comes with another content, however many callers there are and however
their steps interleave: the compiler gives code for the key at most once, one caller says that it
compiled the script if the compiler gave code, and whoever looks on the shelf after that finds the
script there.

The runs are followed through four situations (`Callers.Standing`). Before the compiler gives code
nobody has any; then one caller has it, which holds the key until it has put the code on the shelf
and returned; and after that nobody for the key does more than look on the shelf.
-/
import PluginForge.Proofs.CallerSteps
import PluginForge.Proofs.Shelf

namespace PluginForge

variable {ι φ σ ρ : Type}

/-! ## What is on the shelf -/

namespace Script.Shelf

/-- The script of the key `k` is on the shelf, compiled from what has the hash `hash`. -/
def HasContent (shelf : Shelf ρ) (k hash : String) : Prop :=
  ∀ name, key name = k → shelf.holds name hash = true

variable {shelf : Shelf ρ} {k hash : String}

theorem HasContent.of_find? {other : Shelf ρ} (h : shelf.HasContent k hash)
    (same : ∀ name, key name = k → other.find? name = shelf.find? name) :
    other.HasContent k hash := by
  intro name hk
  rw [holds, same name hk]
  exact h name hk

theorem HasContent.erase {name : String} (h : shelf.HasContent k hash) (hn : key name ≠ k) :
    (shelf.erase name).HasContent k hash := by
  refine h.of_find? fun n hk => ?_
  rw [find?_erase, if_neg]
  rintro he
  exact hn (he.trans hk)

theorem HasContent.insert {entry : Entry ρ} (h : shelf.HasContent k hash)
    (hn : key entry.name ≠ k) : (shelf.insert entry).HasContent k hash := by
  refine h.of_find? fun n hk => ?_
  rw [find?_insert, if_neg]
  rintro he
  exact hn (he.trans hk)

theorem hasContent_insert (entry : Entry ρ) (hk : key entry.name = k)
    (hh : entry.contentHash = hash) : (shelf.insert entry).HasContent k hash := by
  intro name hn
  rw [holds_iff]
  refine ⟨entry, ?_, hh⟩
  rw [find?_insert, if_pos (hk.trans hn.symm)]

end Script.Shelf

/-! ## Stages and steps for one key -/

namespace CallerStage

/-- The job for which a caller has code, until it has returned. -/
def compiled? : CallerStage ρ → Option ScriptJob
  | .storing job _ | .leaving job (some (.ok .compiled)) => some job
  | _ => none

/-- Whether a caller has come to its result or, at least, to code. -/
def isSettled : CallerStage ρ → Bool
  | .storing .. | .leaving .. => true
  | _ => false

/-- Whether a caller that holds a key only looks on the shelf: it is about to, it has found its
script there, or it unwound before it came to anything. -/
def onlyLooks : CallerStage ρ → Bool
  | .checking _ | .leaving _ none | .leaving _ (some (.ok .cached)) => true
  | _ => false

variable {st : CallerStage ρ} {job : ScriptJob}

@[simp] theorem compiled?_woken : st.woken.compiled? = st.compiled? := by
  cases st <;> rfl

theorem held?_of_compiled? (h : st.compiled? = some job) : st.held? = some job := by
  unfold compiled? at h
  split at h <;> cases h <;> rfl

end CallerStage

namespace TakenStep

variable (k : String) (s : TakenStep ι ρ)

/-- Whether the compiler gives code for a script of the key `k`. -/
def fetches : Bool :=
  match s.stage, s.action with
  | .asking job _, .answer _ answer => job.key = k && (Engine.codeFrom job.name answer).isOk
  | _, _ => false

/-- Whether a caller for the key `k` returns and says that it compiled the script. -/
def returnsCompiled : Bool :=
  match s.stage, s.action with
  | .leaving job _, .leave (some (.ok .compiled)) => job.key = k
  | _, _ => false

/-- Whether a caller for the key `k` looks on the shelf. -/
def checks : Bool :=
  match s.stage, s.action with
  | .checking job, .check _ => job.key = k
  | _, _ => false

/-- A step does not take the script of the key `k` off the shelf or bring another content for it
than that of the hash `hash`, and it does not lose the result of a call for the key. -/
structure Respects (hash : String) : Prop where
  clears : ∀ name count, s.action = .clear name count →
    ∃ other, name = some other ∧ Script.key other ≠ k
  submits : ∀ job, s.action = .precompile job → job.key = k → job.hash = hash
  resubmits : ∀ job, s.action = .recompile job → job.key ≠ k
  /-- Neither putting code on the shelf nor returning can unwind. -/
  returns : s.action = .unwind → ∀ job, s.stage.held? = some job → job.key = k →
    s.stage.isSettled = false

variable {k s} {hash : String}

theorem fetches_iff : s.fetches k = true ↔
    ∃ job request other answer code, s.stage = .asking job request ∧
      s.action = .answer other answer ∧ job.key = k ∧
      Engine.codeFrom job.name answer = .ok code := by
  unfold fetches
  constructor
  · intro h
    split at h
    · rename_i job request other answer hs ha
      rw [Bool.and_eq_true, decide_eq_true_eq] at h
      obtain ⟨hk, hc⟩ := h
      cases hb : Engine.codeFrom job.name answer with
      | ok code => exact ⟨job, request, other, answer, code, hs, ha, hk, hb⟩
      | error err =>
        rw [hb] at hc
        cases hc
    · cases h
  · rintro ⟨job, request, other, answer, code, hs, ha, hk, hc⟩
    rw [hs, ha]
    simp [hk, hc, Except.isOk, Except.toBool]

theorem returnsCompiled_iff : s.returnsCompiled k = true ↔
    ∃ job result, s.stage = .leaving job result ∧
      s.action = .leave (some (.ok .compiled)) ∧ job.key = k := by
  unfold returnsCompiled
  constructor
  · intro h
    split at h
    · rename_i job result hs ha
      exact ⟨job, result, hs, ha, of_decide_eq_true h⟩
    · cases h
  · rintro ⟨job, result, hs, ha, hk⟩
    rw [hs, ha]
    simp only [hk, decide_true]

theorem exists_of_checks (h : s.checks k = true) :
    ∃ job held, s.stage = .checking job ∧ s.action = .check held ∧ job.key = k := by
  unfold checks at h
  split at h
  · rename_i job held hs ha
    exact ⟨job, held, hs, ha, of_decide_eq_true h⟩
  · cases h

end TakenStep

namespace Callers

/-- Whoever is in a call for the key `k` came with the content of the hash `hash`, and not to have
it compiled anew. -/
def Agree (c : Callers ι ρ) (k hash : String) : Prop :=
  ∀ i job, (c.stage i).job? = some job → job.key = k →
    job.hash = hash ∧ c.stage i ≠ .evicting job

/-- How far the callers for the key `k` are, after the compiler gave code `fetched` times and
callers said `returned` times that they compiled the script. -/
inductive Standing (k hash : String) (c : Callers ι ρ) : (fetched returned : Nat) → Prop
  | before (none : ∀ i job, (c.stage i).compiled? = some job → job.key ≠ k) :
      Standing k hash c 0 0
  | storing {i job code} (stage : c.stage i = .storing job code) (key : job.key = k) :
      Standing k hash c 1 0
  | stored {i job} (stage : c.stage i = .leaving job (some (.ok .compiled))) (key : job.key = k)
      (content : c.shelf.HasContent k hash) : Standing k hash c 1 0
  | after (content : c.shelf.HasContent k hash)
      (looks : ∀ i job, (c.stage i).held? = some job → job.key = k →
        (c.stage i).onlyLooks = true) : Standing k hash c 1 1

theorem holds_of_held? {c : Callers ι ρ} {i : ι} {job : ScriptJob} {k : String}
    (h : (c.stage i).held? = some job) (hk : job.key = k) : c.Holds i k :=
  (c.stage i).key?_eq_some.2 ⟨job, h, hk⟩

/-- While one caller holds the key, no other one gets code for it or returns with any. -/
theorem Kept.quiet {c : Callers ι ρ} {i j : ι} {k : String} (kept : c.Kept) (hj : c.Holds j k)
    (hij : i ≠ j) (a : CallerAction ρ) :
    TakenStep.fetches k ⟨i, c.stage i, a⟩ = false ∧
      TakenStep.returnsCompiled k ⟨i, c.stage i, a⟩ = false := by
  have alone {job} (hs : (c.stage i).held? = some job) (hk : job.key = k) : False :=
    hij (kept.alone i j k (holds_of_held? hs hk) hj)
  constructor
  · rw [Bool.eq_false_iff]
    intro hf
    obtain ⟨job, request, _, _, _, hs, -, hk, -⟩ := TakenStep.fetches_iff.1 hf
    dsimp only at hs
    exact alone (by rw [hs]; rfl) hk
  · rw [Bool.eq_false_iff]
    intro hr
    obtain ⟨job, result, hs, -, hk⟩ := TakenStep.returnsCompiled_iff.1 hr
    dsimp only at hs
    exact alone (by rw [hs]; rfl) hk

end Callers

/-! ## One step -/

namespace Engine

open Callers

variable [DecidableEq ι] {e : Engine φ σ ρ} {c c' : Callers ι ρ} {i j : ι} {a : CallerAction ρ}
  {k hash : String}

theorem CallerStep.agree (h : e.CallerStep i c a c') (hc : c.Agree k hash)
    (respects : TakenStep.Respects k ⟨i, c.stage i, a⟩ hash) : c'.Agree k hash := by
  intro j job hj hk
  by_cases hij : j = i
  · subst hij
    rcases h.enters with ⟨job', ha, hs⟩ | ⟨job', ha, hs⟩ | ⟨hn, hs⟩
    · rw [hs] at hj ⊢
      cases hj
      exact ⟨respects.submits job ha hk, nofun⟩
    · rw [hs] at hj
      cases hj
      exact absurd hk (respects.resubmits job ha)
    · exact ⟨(hc j job (hs job hj) hk).1, hn job⟩
  · rw [h.job?_of_ne hij] at hj
    obtain ⟨hh, hn⟩ := hc j job hj hk
    refine ⟨hh, ?_⟩
    rcases h.stage_of_ne hij with hs | hs
    · rwa [hs]
    · rw [hs]
      cases hst : c.stage j with
      | evicting =>
        rw [hst] at hn
        exact hn
      | _ => exact nofun

/-- What is on the shelf for the key stays there. -/
theorem CallerStep.content (h : e.CallerStep i c a c') (hc : c.Agree k hash)
    (respects : TakenStep.Respects k ⟨i, c.stage i, a⟩ hash)
    (content : c.shelf.HasContent k hash) : c'.shelf.HasContent k hash := by
  cases h with
  | clear name h =>
    obtain ⟨other, rfl, hn⟩ := respects.clears name _ rfl
    exact content.erase hn
  | @evict job h =>
    refine content.erase fun hk => ?_
    exact (hc i job (by rw [h]; rfl) hk).2 h
  | @store job code h =>
    by_cases hk : job.key = k
    · have hh := (hc i job (by rw [h]; rfl) hk).1
      exact Script.Shelf.hasContent_insert (job.entry code) hk hh
    · have hn : Script.key (job.entry code).name ≠ k := hk
      exact content.insert hn
  | precompile | recompile | wait | wake | take | hit | miss | giveUp | ask | built | failed
  | unwind | leave => exact content

/-- Before the compiler gives code for the key, nobody has any. -/
theorem CallerStep.standing_before (h : e.CallerStep i c a c')
    (none : ∀ j job, (c.stage j).compiled? = some job → job.key ≠ k) :
    TakenStep.returnsCompiled k ⟨i, c.stage i, a⟩ = false ∧
      c'.Standing k hash (TakenStep.fetches k ⟨i, c.stage i, a⟩).toNat 0 := by
  refine ⟨?_, ?_⟩
  · rw [Bool.eq_false_iff]
    intro hr
    obtain ⟨job, result, hs, ha, hk⟩ := TakenStep.returnsCompiled_iff.1 hr
    dsimp only at hs ha
    rcases h.of_leaving hs with hl | hu
    · rw [hl] at ha
      cases ha
      exact none i job (by rw [hs]; rfl) hk
    · rw [hu] at ha
      cases ha
  · cases hf : TakenStep.fetches k ⟨i, c.stage i, a⟩ with
    | true =>
      obtain ⟨job, request, other, answer, code, hs, rfl, hk, hc⟩ := TakenStep.fetches_iff.1 hf
      dsimp only at hs
      cases h with
      | built h result =>
        rw [hs] at h
        cases h
        exact .storing (put_stage_self ..) hk
      | failed h result =>
        rw [hs] at h
        cases h
        cases hc.symm.trans result
    | false =>
      refine .before fun j job hj hk => ?_
      by_cases hij : j = i
      · subst hij
        cases h with
        | clear name h => exact none j job hj hk
        | built h result =>
          rw [put_stage_self] at hj
          cases hj
          rw [TakenStep.fetches_iff.2 ⟨job, _, _, _, _, h, rfl, hk, result⟩] at hf
          cases hf
        | store h =>
          rw [put_stage_self] at hj
          cases hj
          exact none j job (by rw [h]; rfl) hk
        | leave h =>
          rw [giveBack_stage_self] at hj
          cases hj
        | precompile | recompile | evict | wait | wake | take | hit | miss | giveUp | ask | failed
        | unwind =>
          rw [put_stage_self] at hj
          cases hj
      · rcases h.stage_of_ne hij with hs | hs
        · rw [hs] at hj
          exact none j job hj hk
        · rw [hs, CallerStage.compiled?_woken] at hj
          exact none j job hj hk

/-- The caller with the code puts it on the shelf. -/
theorem CallerStep.standing_storing {job : ScriptJob} {code : ρ} (h : e.CallerStep i c a c')
    (kept : c.Kept) (hc : c.Agree k hash)
    (respects : TakenStep.Respects k ⟨i, c.stage i, a⟩ hash)
    (stage : c.stage j = .storing job code) (key : job.key = k) :
    TakenStep.fetches k ⟨i, c.stage i, a⟩ = false ∧
      TakenStep.returnsCompiled k ⟨i, c.stage i, a⟩ = false ∧ c'.Standing k hash 1 0 := by
  have held : (c.stage j).held? = some job := by rw [stage]; rfl
  by_cases hij : i = j
  · subst hij
    rw [stage] at respects ⊢
    refine ⟨rfl, rfl, ?_⟩
    cases h with
    | @store job' code' h =>
      rw [stage] at h
      cases h
      have hh := (hc i job (by rw [stage]; rfl) key).1
      exact .stored (put_stage_self ..) key
        (Script.Shelf.hasContent_insert (job.entry code) key hh)
    | unwind => cases respects.returns rfl job rfl key
    | clear _ h | precompile _ h | recompile _ h | evict h | wait h | wake h | take h | hit h
    | miss h | giveUp _ h | ask _ h | built h | failed h | leave h =>
      rw [stage] at h
      cases h
  · obtain ⟨hf, hr⟩ := kept.quiet (holds_of_held? held key) hij a
    exact ⟨hf, hr, .storing ((h.stage_of_held? (Ne.symm hij) held).trans stage) key⟩

/-- The caller that compiled the script returns. -/
theorem CallerStep.standing_stored {job : ScriptJob} (h : e.CallerStep i c a c')
    (kept : c.Kept) (hc : c.Agree k hash)
    (respects : TakenStep.Respects k ⟨i, c.stage i, a⟩ hash)
    (stage : c.stage j = .leaving job (some (.ok .compiled))) (key : job.key = k)
    (content : c.shelf.HasContent k hash) :
    TakenStep.fetches k ⟨i, c.stage i, a⟩ = false ∧
      c'.Standing k hash 1 (TakenStep.returnsCompiled k ⟨i, c.stage i, a⟩).toNat := by
  have held : (c.stage j).held? = some job := by rw [stage]; rfl
  have content' := h.content hc respects content
  by_cases hij : i = j
  · subst hij
    rcases h.of_leaving stage with rfl | rfl
    · refine ⟨by rw [stage]; rfl, ?_⟩
      rw [TakenStep.returnsCompiled_iff.2 ⟨job, _, stage, rfl, key⟩]
      refine .after content' fun j' job' hj hk => ?_
      -- Nobody else held the key, and `i` has given it back.
      exfalso
      by_cases hij : j' = i
      · subst hij
        cases h with
        | leave =>
          rw [giveBack_stage_self] at hj
          cases hj
      · rw [h.held?_of_ne hij] at hj
        exact hij (kept.alone j' i k (holds_of_held? hj hk) (holds_of_held? held key))
    · rw [stage] at respects
      cases respects.returns rfl job rfl key
  · obtain ⟨hf, hr⟩ := kept.quiet (holds_of_held? held key) hij a
    rw [hr]
    exact ⟨hf, .stored ((h.stage_of_held? (Ne.symm hij) held).trans stage) key content'⟩

/-- A caller that only looks finds the script, so it does nothing but look until it returns. -/
theorem CallerStep.onlyLooks {job : ScriptJob} (h : e.CallerStep i c a c') (hc : c.Agree k hash)
    (content : c.shelf.HasContent k hash)
    (looks : ∀ job, (c.stage i).held? = some job → job.key = k → (c.stage i).onlyLooks = true)
    (hj : (c'.stage i).held? = some job) (hk : job.key = k) :
    (c'.stage i).onlyLooks = true := by
  cases h with
  | clear name h => exact looks job hj hk
  | take | hit | unwind =>
    rw [put_stage_self]
    rfl
  | miss h held =>
    rw [put_stage_self] at hj
    cases hj
    have hh := (hc i job (by rw [h]; rfl) hk).1
    rw [hh, content job.name hk] at held
    cases held
  | giveUp _ h | ask _ h | built h | failed h | store h =>
    rw [put_stage_self] at hj
    cases hj
    have hl := looks job (by rw [h]; rfl) hk
    rw [h] at hl
    cases hl
  | precompile | recompile | evict | wait | wake =>
    rw [put_stage_self] at hj
    cases hj
  | leave =>
    rw [giveBack_stage_self] at hj
    cases hj

/-- Once the script is on the shelf and its compile has been reported, callers only look. -/
theorem CallerStep.standing_after (h : e.CallerStep i c a c') (hc : c.Agree k hash)
    (respects : TakenStep.Respects k ⟨i, c.stage i, a⟩ hash)
    (content : c.shelf.HasContent k hash)
    (looks : ∀ j job, (c.stage j).held? = some job → job.key = k →
      (c.stage j).onlyLooks = true) :
    TakenStep.fetches k ⟨i, c.stage i, a⟩ = false ∧
      TakenStep.returnsCompiled k ⟨i, c.stage i, a⟩ = false ∧ c'.Standing k hash 1 1 := by
  refine ⟨?_, ?_, .after (h.content hc respects content) fun j job hj hk => ?_⟩
  · rw [Bool.eq_false_iff]
    intro hf
    obtain ⟨job, request, _, _, _, hs, -, hk, -⟩ := TakenStep.fetches_iff.1 hf
    dsimp only at hs
    have hl := looks i job (by rw [hs]; rfl) hk
    rw [hs] at hl
    cases hl
  · rw [Bool.eq_false_iff]
    intro hr
    obtain ⟨job, result, hs, ha, hk⟩ := TakenStep.returnsCompiled_iff.1 hr
    dsimp only at hs ha
    have hl := looks i job (by rw [hs]; rfl) hk
    rcases h.of_leaving hs with hr | hu
    · rw [hr] at ha
      cases ha
      rw [hs] at hl
      cases hl
    · rw [hu] at ha
      cases ha
  · by_cases hij : j = i
    · subst hij
      exact h.onlyLooks hc content (looks j) hj hk
    · have held := hj
      rw [h.held?_of_ne hij] at held
      rw [h.stage_of_held? hij held]
      exact looks j job held hk

/-! ## Runs -/

theorem CallerStep.standing {m n : Nat} (h : e.CallerStep i c a c') (kept : c.Kept)
    (hc : c.Agree k hash) (respects : TakenStep.Respects k ⟨i, c.stage i, a⟩ hash)
    (hs : c.Standing k hash m n) :
    c'.Standing k hash (m + (TakenStep.fetches k ⟨i, c.stage i, a⟩).toNat)
      (n + (TakenStep.returnsCompiled k ⟨i, c.stage i, a⟩).toNat) := by
  cases hs with
  | before none =>
    obtain ⟨hr, hs⟩ : _ ∧ c'.Standing k hash _ 0 := h.standing_before none
    rw [hr, Nat.zero_add]
    exact hs
  | storing stage key =>
    obtain ⟨hf, hr, hs⟩ := h.standing_storing kept hc respects stage key
    rw [hf, hr]
    exact hs
  | stored stage key content =>
    obtain ⟨hf, hs⟩ := h.standing_stored kept hc respects stage key content
    rw [hf, Nat.zero_add]
    exact hs
  | after content looks =>
    obtain ⟨hf, hr, hs⟩ := h.standing_after hc respects content looks
    rw [hf, hr]
    exact hs

variable {steps : List (TakenStep ι ρ)}

theorem CallerSteps.standing {m n : Nat} (h : e.CallerSteps c steps c') (kept : c.Kept)
    (hc : c.Agree k hash) (respects : ∀ s ∈ steps, s.Respects k hash)
    (hs : c.Standing k hash m n) :
    c'.Agree k hash ∧ c'.Standing k hash (m + steps.countP (·.fetches k))
      (n + steps.countP (·.returnsCompiled k)) := by
  induction h generalizing m n with
  | nil => exact ⟨hc, hs⟩
  | @cons c c₁ c' i a steps step rest ih =>
    rw [List.forall_mem_cons] at respects
    have toNat (b : Bool) : (if b = true then 1 else 0) = b.toNat := by cases b <;> rfl
    have hs₁ := step.standing kept hc respects.1 hs
    obtain ⟨ha, hs'⟩ := ih (step.effect.kept kept) (step.agree hc respects.1) respects.2 hs₁
    refine ⟨ha, ?_⟩
    rw [List.countP_cons, List.countP_cons, toNat, toNat, Nat.add_comm (List.countP _ _),
      Nat.add_comm (List.countP _ _), ← Nat.add_assoc, ← Nat.add_assoc]
    exact hs'

/-- Whoever looks on the shelf after the compiler gave code finds the script. -/
theorem CallerStep.check_hits {m n : Nat} {held : Bool} {job : ScriptJob}
    (h : e.CallerStep i c (.check held) c') (kept : c.Kept) (hc : c.Agree k hash)
    (hs : c.Standing k hash (m + 1) n) (stage : c.stage i = .checking job) (key : job.key = k) :
    held = true ∧ c'.stage i = .leaving job (some (.ok .cached)) := by
  have mine : (c.stage i).held? = some job := by rw [stage]; rfl
  have alone {j job'} (hj : (c.stage j).held? = some job') (hk : job'.key = k) : j = i :=
    kept.alone j i k (holds_of_held? hj hk) (holds_of_held? mine key)
  cases hs with
  | storing stage' key' =>
    obtain rfl := alone (by rw [stage']; rfl) key'
    cases stage.symm.trans stage'
  | stored stage' key' =>
    obtain rfl := alone (by rw [stage']; rfl) key'
    cases stage.symm.trans stage'
  | after content =>
    cases h with
    | hit h =>
      rw [stage] at h
      cases h
      exact ⟨rfl, put_stage_self ..⟩
    | miss h held =>
      rw [stage] at h
      cases h
      have hh := (hc i job (by rw [stage]; rfl) key).1
      rw [hh, content job.name key] at held
      cases held

/-- The script of the key `k` is compiled once in these steps, which lead to `c'`. -/
structure CompiledOnce (e : Engine φ σ ρ) (k : String) (steps : List (TakenStep ι ρ))
    (c' : Callers ι ρ) : Prop where
  /-- The compiler gives code at most once. -/
  once : steps.countP (·.fetches k) ≤ 1
  /-- As many callers return that compiled the script as the compiler gives code: one if it gives
  any, once the caller with the code has returned. -/
  reported : steps.countP (·.returnsCompiled k) = steps.countP (·.fetches k) ∨
    steps.countP (·.returnsCompiled k) = 0 ∧
      ∃ i job, (c'.stage i).compiled? = some job ∧ job.key = k
  /-- Whoever looks on the shelf after the compiler gave code finds the script there, and the next
  thing that it does is to return with it. -/
  cached : ∀ before s between t after, steps = before ++ s :: between ++ t :: after →
    s.fetches k = true → t.checks k = true → t.action = .check true ∧
      ∀ u, after.find? (·.caller = t.caller) = some u → u.action = .leave (some (.ok .cached))
  /-- Every caller can come to the end of its call. -/
  ends : ∀ i, e.Ends c' i

/-- From when nobody is in a call for a key on, the script of the key is compiled once, as long as
all callers for it bring the same content and nobody takes it off the shelf. -/
theorem CallersReach.compiledOnce (h : e.CallersReach c)
    (fresh : ∀ i job, (c.stage i).job? = some job → job.key ≠ k)
    (hs : e.CallerSteps c steps c') (respects : ∀ s ∈ steps, s.Respects k hash) :
    e.CompiledOnce k steps c' := by
  have kept := h.kept
  have agree : c.Agree k hash := fun i job hj hk => absurd hk (fresh i job hj)
  have before : c.Standing k hash 0 0 := .before fun i job hj =>
    fresh i job (CallerStage.job?_of_held? (CallerStage.held?_of_compiled? hj))
  obtain ⟨-, standing⟩ := hs.standing kept agree respects before
  rw [Nat.zero_add, Nat.zero_add] at standing
  constructor
  case once =>
    generalize steps.countP (·.fetches k) = m at standing ⊢
    generalize steps.countP (·.returnsCompiled k) = n at standing
    cases standing <;> decide
  case reported =>
    generalize steps.countP (·.fetches k) = m at standing ⊢
    generalize steps.countP (·.returnsCompiled k) = n at standing ⊢
    cases standing with
    | before | after => exact .inl rfl
    | storing stage key => exact .inr ⟨rfl, _, _, by rw [stage]; rfl, key⟩
    | stored stage key => exact .inr ⟨rfl, _, _, by rw [stage]; rfl, key⟩
  case cached =>
    rintro xs s ys t zs rfl hf ht
    rw [List.forall_mem_append] at respects
    obtain ⟨m, hx, hz⟩ := hs.split
    obtain ⟨agree', standing'⟩ := hx.standing kept agree respects.1 before
    have pos : 0 < (xs ++ s :: ys).countP (·.fetches k) :=
      List.countP_pos_iff.2 ⟨s, by simp, hf⟩
    obtain ⟨n, hn⟩ := Nat.exists_eq_add_of_lt pos
    rw [Nat.zero_add, hn, Nat.zero_add] at standing'
    cases hz with
    | cons step rest =>
      obtain ⟨job, held, stage, rfl, key⟩ := TakenStep.exists_of_checks ht
      obtain ⟨rfl, stage'⟩ := step.check_hits (hx.kept kept) agree' standing' stage key
      refine ⟨rfl, fun u hu => ?_⟩
      obtain ⟨hstage, ha | ha⟩ := rest.next_of_leaving stage' hu
      · exact ha
      · have hr := respects.2 u (List.mem_cons_of_mem _ (List.mem_of_find?_eq_some hu))
        have hl := hr.returns ha job (by rw [hstage]; rfl) key
        rw [hstage] at hl
        cases hl
  case ends => exact fun i => Engine.ends (hs.kept kept) i

/-- Two callers come for one script under two spellings of its name. One of them has it compiled
while the other one sleeps, and then finds it on the shelf. -/
theorem CallersReach.compiledOnce_two_spellings :
    ∃ (steps : List (TakenStep Bool Scripted.Code)) (hash : String) (c' : Callers Bool _),
      inMemory.CallersReach (.start .empty : Callers Bool _) ∧
      inMemory.CallerSteps (.start .empty) steps c' ∧
      (∀ i job, ((.start .empty : Callers Bool Scripted.Code).stage i).job? = some job →
        job.key ≠ "greet") ∧
      (∀ s ∈ steps, s.Respects "greet" hash) ∧
      steps.countP (·.returnsCompiled "greet") = 1 ∧ steps.countP (·.checks "greet") = 2 ∧
      inMemory.CompiledOnce "greet" steps c' := by
  let one : ScriptJob := ⟨"Greet", "return 1;", []⟩
  let other : ScriptJob := ⟨" greet", "return 1;", []⟩
  let code : Scripted.Code := .echo "Greet" "return 1;"
  have hone : one.key = "greet" := by decide +kernel
  have hother : other.key = "greet" := by decide +kernel
  have built : codeFrom one.name (.answer ⟨true, [], some code⟩) = .ok code := rfl
  have held : (Script.Shelf.empty.insert (one.entry code)).holds other.name other.hash = true :=
    Script.Shelf.hasContent_insert (one.entry code) hone rfl other.name hother
  have run : inMemory.CallerSteps (.start .empty) _ _ :=
    .cons (i := true) (.precompile one rfl) <|
    .cons (i := true) (.take (put_stage_self ..) nofun) <|
    .cons (i := true) (.miss (put_stage_self ..) rfl) <|
    .cons (i := true) (.ask [] (put_stage_self ..)) <|
    .cons (i := false) (.precompile other rfl) <|
    .cons (i := false) (.wait (put_stage_self ..) (by
      rw [hother, ← hone]
      exact List.mem_cons_self)) <|
    .cons (i := true) (.built rfl built) <|
    .cons (i := true) (.store (put_stage_self ..)) <|
    .cons (i := true) (.leave (put_stage_self ..)) <|
    .cons (i := false) (.take rfl (by
      rw [hother, ← hone]
      simp [giveBack])) <|
    .cons (i := false) (.hit (put_stage_self ..) held) <|
    .cons (i := false) (.leave (put_stage_self ..)) <|
    .nil
  have reach : inMemory.CallersReach (.start .empty : Callers Bool _) := ⟨_, _, .nil⟩
  have fresh : ∀ i job, ((.start .empty : Callers Bool Scripted.Code).stage i).job? = some job →
      job.key ≠ "greet" := nofun
  refine ⟨_, one.hash, _, reach, run, fresh, ?respects, ?returned, ?checked,
    reach.compiledOnce fresh run ?respects⟩
  case respects =>
    intro s hs
    simp only [List.mem_cons, List.not_mem_nil, or_false] at hs
    rcases hs with rfl | rfl | rfl | rfl | rfl | rfl | rfl | rfl | rfl | rfl | rfl | rfl
    case inl | inr.inr.inr.inr.inl =>
      refine ⟨nofun, fun job h _ => ?_, nofun, nofun⟩
      cases h
      rfl
    all_goals exact ⟨nofun, nofun, nofun, nofun⟩
  case returned => decide +kernel
  case checked => decide +kernel

end Engine
end PluginForge
