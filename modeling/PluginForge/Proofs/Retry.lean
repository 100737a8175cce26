/-
What the retries of a group do. Between two attempts only blamed imports go, and they are gone for
good; each retry uses up a retry and at least one directive; and why no further attempt follows can
be read off the last one.
-/
import PluginForge.Compiler.Scripted
import PluginForge.Proofs.Attempts

namespace PluginForge

open Chars MissingSymbol

namespace Attempt

/-- The names that the errors of an attempt point at. -/
def blamed (a : Attempt) : List String :=
  match a.answer with
  | .answer output => offendingNames output.diagnostics
  | _ => []

/-- The attempt `b` is `a` again without the lines that `a` blames, of which there are some. -/
structure Repairs (a b : Attempt) : Prop where
  assemblyName : b.request.assemblyName = a.request.assemblyName
  languageVersion : b.request.languageVersion = a.request.languageVersion
  references : b.request.references = a.request.references
  policy : b.request.policy = a.request.policy
  sources : List.Forall₂ (Pruned a.blamed) a.request.sources b.request.sources
  deletes : ∃ src ∈ a.request.sources, ∃ line ∈ rawLines src.text.toList,
    blames a.blamed line = true

end Attempt

namespace GroupCompile

variable {retries attempts removed : Nat} {request : EmitRequest} {as : List Attempt}
  {result : Except ServiceError GroupCompile}

/-! ## Repairs -/

theorem repairs_repaired {n : Nat} {output : EmitOutput} (answer : Outcome EmitOutput)
    (hr : stopReason? n (removable request output) output.diagnostics = none) :
    Attempt.Repairs ⟨request, .answer output⟩ ⟨repaired request output, answer⟩ where
  assemblyName := rfl
  languageVersion := rfl
  references := rfl
  policy := rfl
  sources := prune_pruned _ _
  deletes := by
    have hn : ¬ removable request output = 0 := Nat.ne_of_gt (pos_of_stopReason?_eq_none hr).2
    rw [removable, prune_snd_eq_zero] at hn
    simpa [Spares, Attempt.blamed] using hn

theorem Run.repairs (h : Run retries attempts removed request as result) :
    as.IsChain Attempt.Repairs := by
  induction h with
  | fault | success | stop => exact .singleton _
  | retry _ hr hn ih =>
    obtain ⟨answer, rest, rfl⟩ := hn.head
    exact .cons_cons (repairs_repaired answer hr) ih

/-- Names that no source mentions at first are mentioned by none later on. -/
theorem Run.spares {names : List String} (h : Run retries attempts removed request as result)
    (hs : ∀ src ∈ request.sources, Spares names src) :
    ∀ a ∈ as, ∀ src ∈ a.request.sources, Spares names src := by
  refine h.forall_request (P := fun r => ∀ src ∈ r.sources, Spares names src) hs ?_
  intro r output hr t ht
  obtain ⟨src, hsrc, hp⟩ := exists_pruned ht
  exact (hr src hsrc).pruned hp

/-- What an attempt blames is gone from all later ones. -/
theorem Run.pairwise_spares (h : Run retries attempts removed request as result) :
    as.Pairwise fun a b => ∀ src ∈ b.request.sources, Spares a.blamed src := by
  induction h with
  | fault | success | stop => exact List.pairwise_singleton _ _
  | @retry _ _ _ request output _ _ _ _ hn ih =>
    refine .cons ?_ ih
    refine hn.spares fun t ht => ?_
    obtain ⟨src, _, hpr⟩ := exists_pruned ht
    exact hpr.spares

/-! ## Reasons to stop -/

/-- A group stops with the output of its last attempt, for a reason that this output, the sources it
was made from and the number of attempts give. -/
structure StopsAfter (retries : Nat) (as : List Attempt) (last : Attempt) (c : GroupCompile) :
    Prop where
  isLast : as.getLast? = some last
  output : last.answer = .answer c.output
  none : c.stopReason = none ↔ c.output.success = true
  notRetryable : c.stopReason = some .notRetryable ↔
    c.output.success = false ∧ ∀ d ∈ c.output.diagnostics, reports d = false
  retriesExhausted : c.stopReason = some .retriesExhausted ↔
    c.output.success = false ∧ (∃ d ∈ c.output.diagnostics, reports d = true) ∧
      as.length = retries + 1
  nothingToRemove : c.stopReason = some .nothingToRemove ↔
    c.output.success = false ∧ (∃ d ∈ c.output.diagnostics, reports d = true) ∧
      as.length ≤ retries ∧
      ∀ src ∈ last.request.sources, Spares (offendingNames c.output.diagnostics) src
  noOther : c.stopReason ≠ some .serviceFailure ∧ c.stopReason ≠ some .artifactWriteFailed

theorem Run.stopsAfter {c : GroupCompile} (h : Run retries attempts removed request as (.ok c)) :
    ∃ last, StopsAfter retries as last c := by
  obtain ⟨last, hl, hc⟩ := h.getLast_ok
  have hlen := h.length_le
  have hleft : as.length = retries + 1 ↔ retries + 1 - as.length = 0 := by omega
  have hleft' : as.length ≤ retries ↔ 0 < retries + 1 - as.length := by omega
  have hspared : (∀ src ∈ last.sources, Spares (offendingNames c.output.diagnostics) src) ↔
      removable last c.output = 0 := prune_snd_eq_zero.symm
  refine ⟨⟨last, .answer c.output⟩, ?_⟩
  rcases hc with ⟨hs, hr⟩ | ⟨hs, reason, hr, hstop⟩
  · constructor <;> simp [hs, hr, hl]
  · rcases stopReason?_cases (retries + 1 - as.length) (removable last c.output)
      c.output.diagnostics with ⟨hd, he⟩ | ⟨hd, ⟨hn, he⟩ | ⟨hn, hk, he⟩ | ⟨_, _, he⟩⟩
    · obtain rfl : .notRetryable = reason := Option.some.inj (he.symm.trans hstop)
      have hd' : ¬ ∃ d ∈ c.output.diagnostics, reports d = true := by simpa using hd
      constructor <;> simp only [hs, hr, hl, hd']
      case notRetryable => exact ⟨fun _ => ⟨trivial, hd⟩, fun _ => trivial⟩
      all_goals simp
    · obtain rfl : .retriesExhausted = reason := Option.some.inj (he.symm.trans hstop)
      have hd' : ¬ ∀ d ∈ c.output.diagnostics, reports d = false := by simpa using hd
      constructor <;> simp only [hs, hr, hl, hd, hd', hleft, hleft', hn]
      all_goals simp
    · obtain rfl : .nothingToRemove = reason := Option.some.inj (he.symm.trans hstop)
      have hd' : ¬ ∀ d ∈ c.output.diagnostics, reports d = false := by simpa using hd
      have hn' := Nat.ne_of_gt hn
      constructor <;> simp only [hs, hr, hl, hd, hd', hleft, hleft', hn, hn', hspared, hk]
      all_goals simp
    · rw [he] at hstop; cases hstop

end GroupCompile

/-! ## Groups -/

namespace CompilationGroup

variable {σ ρ : Type} (service : CompileService σ ρ) (settings : Settings) (references : List Path)
  (g : CompilationGroup) (s : CompileState σ)

/-- Each attempt at a group but the first repairs the one before it, and the imports that an attempt
blames are in the sources of no later one. -/
theorem attempts_repair :
    (g.attempts service settings references s).IsChain Attempt.Repairs ∧
      (g.attempts service settings references s).Pairwise fun a b =>
        ∀ src ∈ b.request.sources, Spares a.blamed src :=
  have h := g.attempts_run service settings references s
  ⟨h.repairs, h.pairwise_spares⟩

/-- The attempts at a group are at most one more than the retries allowed and at most one more than
the directives in its sources, whatever the service does. -/
theorem attempts_length_le :
    (g.attempts service settings references s).length ≤
      min settings.retryCount.toNat (directives g.sources) + 1 :=
  (g.attempts_run service settings references s).length_le_min

/-- If every attempt at a group is answered, its compile ends with the output of the last attempt,
for the reason that fits it. -/
theorem compile_stopsAfter
    (h : ∀ a ∈ g.attempts service settings references s, a.answer.isAnswer = true) :
    ∃ last c, (g.compile service settings references s).1 = .ok c ∧
      GroupCompile.StopsAfter settings.retryCount.toNat
        (g.attempts service settings references s) last c := by
  have hrun := g.attempts_run service settings references s
  cases hc : (g.compile service settings references s).1 with
  | error e =>
    rw [hc] at hrun
    obtain ⟨last, hl, he⟩ := hrun.getLast_error
    exact absurd he (Outcome.guarded_ne_error (h last (List.mem_of_getLast? hl)) e)
  | ok c =>
    rw [hc] at hrun
    obtain ⟨last, hs⟩ := hrun.stopsAfter
    exact ⟨last, c, rfl, hs⟩

/-- A group of one source with an import that the service will not find. -/
def withLostImport : CompilationGroup :=
  .ofUnits "" "Foo"
    [.ofTree ⟨"/a.cs"⟩ "using System;\nusing Old.Api;\nclass A {}\n" ⟨⟨"/a.cs"⟩, [], []⟩]

/-- A state in which the service complains about that import twice. -/
def complainingTwice : CompileState (List Scripted.EmitAnswer) :=
  ⟨List.replicate 2 (.fixed (.answer (.failed [Scripted.notFound "Old.Api"]))), []⟩

theorem compile_stopsAfter_lost_import :
    (∀ a ∈ withLostImport.attempts (Scripted.service ⟨[], [], []⟩) .standard [] complainingTwice,
        a.answer.isAnswer = true) ∧
      ∃ last c,
        (withLostImport.compile (Scripted.service ⟨[], [], []⟩) .standard [] complainingTwice).1 =
          .ok c ∧
        GroupCompile.StopsAfter 3
          (withLostImport.attempts (Scripted.service ⟨[], [], []⟩) .standard [] complainingTwice)
          last c ∧
        c.stopReason = some .nothingToRemove := by
  have h : ∀ a ∈ withLostImport.attempts (Scripted.service ⟨[], [], []⟩) .standard []
      complainingTwice, a.answer.isAnswer = true := by decide +kernel
  obtain ⟨last, c, hc, hs⟩ := compile_stopsAfter _ _ _ _ _ h
  refine ⟨h, last, c, hc, hs, ?_⟩
  have hr : (withLostImport.compile (Scripted.service ⟨[], [], []⟩) .standard []
      complainingTwice).1.toOption.bind GroupCompile.stopReason = some .nothingToRemove := by
    decide +kernel
  rw [hc] at hr
  exact hr

end CompilationGroup
end PluginForge
