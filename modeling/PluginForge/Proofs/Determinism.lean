/-
Compilers that give the same answer whenever they are asked the same. What passes to and from such a
compiler, and what comes of it, then depends on the texts alone: the relations that say which
exchanges may occur have one outcome each. Two builds are compared by these facts, file by file and
group by group.
-/
import PluginForge.Compiler.Scripted
import PluginForge.Proofs.Intake
import PluginForge.Proofs.Simulation

namespace PluginForge

variable {φ σ ρ : Type}

/-! ## What every call keeps up -/

namespace CompileService

/-- Whatever the service is asked, `I` holds of its state afterwards if it held before. -/
structure Keeps (service : CompileService σ ρ) (I : σ → Prop) : Prop where
  parse : ∀ source version s, I s → I (service.parse source version s).2
  emit : ∀ request s, I s → I (service.emit request s).2
  compileScript : ∀ request s, I s → I (service.compileScript request s).2
  run : ∀ code context s, I s → I (service.run code context s).2

variable {service : CompileService σ ρ} {I : σ → Prop}

/-- A call on the states of which `I` holds. -/
def restrictCall {α : Type} (f : σ → α × σ) (h : ∀ s, I s → I (f s).2) (s : { s : σ // I s }) :
    α × { s : σ // I s } :=
  ((f s.1).1, ⟨(f s.1).2, h s.1 s.2⟩)

/-- The service on the states of which `I` holds. -/
def restrict (service : CompileService σ ρ) (h : service.Keeps I) :
    CompileService { s : σ // I s } ρ where
  parse := fun source version => restrictCall (service.parse source version) (h.parse source version)
  emit := fun request => restrictCall (service.emit request) (h.emit request)
  compileScript := fun request =>
    restrictCall (service.compileScript request) (h.compileScript request)
  run := fun code context => restrictCall (service.run code context) (h.run code context)

theorem restrict_simulates (h : service.Keeps I) :
    (service.restrict h).Simulates service Subtype.val where
  parse _ _ _ := rfl
  emit _ _ := rfl
  compileScript _ _ := rfl
  run _ _ _ := rfl

end CompileService

/-- What every call of the service keeps up is kept up by a build. -/
theorem Engine.buildDir_keeps {e : Engine φ σ ρ} {I : σ → Prop} (h : e.service.Keeps I)
    (root : Path) (clock : Nat → TimeStamp) {s : EngineState φ σ ρ} (hs : I s.service) :
    I (e.buildDir root clock s).2.service := by
  -- the same build, of the service on the states of which `I` holds
  have same := buildDir_simulates (e := e.withService (e.service.restrict h))
    (CompileService.restrict_simulates h) root clock
    { s with service := (⟨s.service, hs⟩ : { s : σ // I s }) }
  have service : (e.buildDir root clock s).2.service =
      Subtype.val ((e.withService (e.service.restrict h)).buildDir root clock
        { s with service := (⟨s.service, hs⟩ : { s : σ // I s }) }).2.service :=
    congrArg (fun p => p.2.service) same
  rw [service]
  exact Subtype.property _

/-! ## Answers -/

/-- The service answers requests to parse and to emit by what is asked, whatever its state. -/
structure CompileService.AnswersBy (service : CompileService σ ρ)
    (parse : SourceFile → LanguageVersion → Outcome SyntaxTree)
    (emit : EmitRequest → Outcome EmitOutput) : Prop where
  parse : ∀ source version s, (service.parse source version s).1 = parse source version
  emit : ∀ request s, (service.emit request s).1 = emit request

/-- An exchange with such a service. -/
def Exchange.AnsweredBy (parse : SourceFile → LanguageVersion → Outcome SyntaxTree)
    (emit : EmitRequest → Outcome EmitOutput) : Exchange ρ → Prop
  | .parse source version answer => answer = parse source version
  | .emit request answer => answer = emit request
  | .compileScript .. | .run .. => True

section

variable {parse : SourceFile → LanguageVersion → Outcome SyntaxTree}
  {emit : EmitRequest → Outcome EmitOutput}

theorem CompileService.AnswersBy.traced_keeps {service : CompileService σ ρ}
    (h : service.AnswersBy parse emit) :
    service.traced.Keeps fun t => ∀ x ∈ t.exchanges, x.AnsweredBy parse emit where
  parse source version t ht :=
    List.forall_mem_append.2 ⟨ht, List.forall_mem_singleton.2 (h.parse source version t.state)⟩
  emit request t ht :=
    List.forall_mem_append.2 ⟨ht, List.forall_mem_singleton.2 (h.emit request t.state)⟩
  compileScript _ _ ht := List.forall_mem_append.2 ⟨ht, List.forall_mem_singleton.2 trivial⟩
  run _ _ _ ht := List.forall_mem_append.2 ⟨ht, List.forall_mem_singleton.2 trivial⟩

theorem Engine.exchanges_answeredBy {e : Engine φ σ ρ} (h : e.service.AnswersBy parse emit)
    (root : Path) (clock : Nat → TimeStamp) (s : EngineState φ σ ρ) :
    ∀ x ∈ e.exchanges root clock s, x.AnsweredBy parse emit :=
  buildDir_keeps (e := e.traced) h.traced_keeps root clock fun _ hx => absurd hx List.not_mem_nil

/-! ## One outcome -/

namespace GroupCompile

variable {retries attempts removed : Nat} {request : EmitRequest} {as bs : List Attempt}
  {r r' : Except ServiceError GroupCompile}

/-- How a run goes on when its first attempt is answered so. -/
theorem Run.answered (h : Run retries attempts removed request as r) :
    ∃ answer rest, as = ⟨request, answer⟩ :: rest ∧
      match answer.guarded with
      | .error e => rest = [] ∧ r = .error e
      | .ok output =>
        if output.success then rest = [] ∧ r = .ok ⟨attempts + 1, removed, output, none⟩
        else
          match stopReason? retries (removable request output) output.diagnostics with
          | some reason => rest = [] ∧ r = .ok ⟨attempts + 1, removed, output, some reason⟩
          | none => Run (retries - 1) (attempts + 1) (removed + removable request output)
              (repaired request output) rest r := by
  cases h with
  | fault hg => exact ⟨_, [], rfl, by rw [hg]; exact ⟨rfl, rfl⟩⟩
  | success hs => exact ⟨_, [], rfl, by simp [Outcome.guarded, hs]⟩
  | stop hs hr => exact ⟨_, [], rfl, by simp [Outcome.guarded, hs, hr]⟩
  | retry hs hr hn => exact ⟨_, _, rfl, by simpa [Outcome.guarded, hs, hr] using hn⟩

/-- The attempts at a group, and how they end, follow from its first request. -/
theorem Run.unique (h : Run retries attempts removed request as r)
    (h' : Run retries attempts removed request bs r')
    (ha : ∀ a ∈ as, a.answer = emit a.request) (hb : ∀ b ∈ bs, b.answer = emit b.request) :
    as = bs ∧ r = r' := by
  induction h generalizing bs r' with
  | fault hg =>
    obtain ⟨answer, rest, rfl, next⟩ := h'.answered
    obtain rfl : answer = _ := (hb _ List.mem_cons_self).trans (ha _ List.mem_cons_self).symm
    simp only [hg] at next
    obtain ⟨rfl, rfl⟩ := next
    exact ⟨rfl, rfl⟩
  | success hs =>
    obtain ⟨answer, rest, rfl, next⟩ := h'.answered
    obtain rfl : answer = _ := (hb _ List.mem_cons_self).trans (ha _ List.mem_cons_self).symm
    simp only [Outcome.guarded, hs, if_true] at next
    obtain ⟨rfl, rfl⟩ := next
    exact ⟨rfl, rfl⟩
  | stop hs hr =>
    obtain ⟨answer, rest, rfl, next⟩ := h'.answered
    obtain rfl : answer = _ := (hb _ List.mem_cons_self).trans (ha _ List.mem_cons_self).symm
    simp only [Outcome.guarded, hs, hr, Bool.false_eq_true, if_false] at next
    obtain ⟨rfl, rfl⟩ := next
    exact ⟨rfl, rfl⟩
  | retry hs hr _ ih =>
    obtain ⟨answer, rest, rfl, next⟩ := h'.answered
    obtain rfl : answer = _ := (hb _ List.mem_cons_self).trans (ha _ List.mem_cons_self).symm
    simp only [Outcome.guarded, hs, hr, Bool.false_eq_true, if_false, Nat.add_sub_cancel] at next
    obtain ⟨rfl, rfl⟩ := ih next (List.forall_mem_cons.1 ha).2 (List.forall_mem_cons.1 hb).2
    exact ⟨rfl, rfl⟩

end GroupCompile

namespace Intake

variable {fs : FileSystem φ} {settings : Settings} {files files' : φ} {p : Path} {text : String}
  {xs ys : List (Exchange ρ)} {r r' : Except ServiceError FileOutcome}

/-- How a text goes on to be parsed when the compiler first answers so. -/
theorem Parsing.answered (h : Parsing settings p text xs r) :
    ∃ answer rest, xs = parsing settings p text answer :: rest ∧
      match answer.guarded with
      | .error e => rest = [] ∧ r = .error e
      | .ok probe =>
        if probe.errorCount ≠ 0 then
          rest = [] ∧ r = .ok (.skipped (.invalid probe.errorCount))
        else if completed settings text probe = text then
          rest = [] ∧ r = .ok (.parsed (.ofTree p text probe))
        else ∃ again, rest = [parsing settings p (completed settings text probe) again] ∧
          r = again.guarded.map fun tree =>
            .parsed (.ofTree p (completed settings text probe) tree) := by
  cases h with
  | fault hg =>
    refine ⟨_, [], rfl, ?_⟩
    simp [hg]
  | invalid hv =>
    refine ⟨_, [], rfl, ?_⟩
    simp [Outcome.guarded, hv]
  | complete hv hc =>
    refine ⟨_, [], rfl, ?_⟩
    simp [Outcome.guarded, hv, hc]
  | @faultAgain _ again _ hv hc ha =>
    refine ⟨_, _, rfl, ?_⟩
    simp only [Outcome.guarded.eq_1, hv, hc, ne_eq, not_true_eq_false, if_false]
    exact ⟨again, rfl, by rw [ha]; rfl⟩
  | parsedAgain hv hc =>
    refine ⟨_, _, rfl, ?_⟩
    simp only [Outcome.guarded.eq_1, hv, hc, ne_eq, not_true_eq_false, if_false]
    exact ⟨_, rfl, rfl⟩

/-- What is asked about a text, and what becomes of it, follow from the text. -/
theorem Parsing.unique (h : Parsing settings p text xs r) (h' : Parsing settings p text ys r')
    (hx : ∀ x ∈ xs, x.AnsweredBy parse emit) (hy : ∀ y ∈ ys, y.AnsweredBy parse emit) :
    xs = ys ∧ r = r' := by
  obtain ⟨answer, rest, rfl, next⟩ := h.answered
  obtain ⟨answer', rest', rfl, next'⟩ := h'.answered
  obtain ⟨first, others⟩ := List.forall_mem_cons.1 hx
  obtain ⟨first', others'⟩ := List.forall_mem_cons.1 hy
  obtain rfl : answer = answer' := Eq.trans first first'.symm
  cases hg : answer.guarded with
  | error e =>
    simp only [hg] at next next'
    obtain ⟨rfl, rfl⟩ := next
    obtain ⟨rfl, rfl⟩ := next'
    exact ⟨rfl, rfl⟩
  | ok probe =>
    simp only [hg] at next next'
    split at next
    · rename_i hv
      rw [if_pos hv] at next'
      obtain ⟨rfl, rfl⟩ := next
      obtain ⟨rfl, rfl⟩ := next'
      exact ⟨rfl, rfl⟩
    · rename_i hv
      rw [if_neg hv] at next'
      split at next
      · rename_i hc
        rw [if_pos hc] at next'
        obtain ⟨rfl, rfl⟩ := next
        obtain ⟨rfl, rfl⟩ := next'
        exact ⟨rfl, rfl⟩
      · rename_i hc
        rw [if_neg hc] at next'
        obtain ⟨again, rfl, rfl⟩ := next
        obtain ⟨again', rfl, rfl⟩ := next'
        obtain rfl : again = again' :=
          Eq.trans (others _ List.mem_cons_self) (Eq.symm (others' _ List.mem_cons_self))
        exact ⟨rfl, rfl⟩

/-- What is asked about a file, and what becomes of it, follow from what is read. -/
theorem FileIntake.unique (h : FileIntake fs settings files p xs r)
    (h' : FileIntake fs settings files' p ys r')
    (same : readUnit fs p files = readUnit fs p files')
    (hx : ∀ x ∈ xs, x.AnsweredBy parse emit) (hy : ∀ y ∈ ys, y.AnsweredBy parse emit) :
    xs = ys ∧ r = r' := by
  cases h with
  | unread hu =>
    rw [same] at hu
    cases h' with
    | unread hu' => cases hu.symm.trans hu'; exact ⟨rfl, rfl⟩
    | empty hu' | blank hu' | text hu' => cases hu.symm.trans hu'
  | empty hu =>
    rw [same] at hu
    cases h' with
    | empty => exact ⟨rfl, rfl⟩
    | unread hu' | blank hu' | text hu' => cases hu.symm.trans hu'
  | blank hu hb =>
    rw [same] at hu
    cases h' with
    | blank => exact ⟨rfl, rfl⟩
    | unread hu' | empty hu' => cases hu.symm.trans hu'
    | text hu' hb' =>
      cases hu.symm.trans hu'
      rw [hb] at hb'
      cases hb'
  | text hu hb hp =>
    rw [same] at hu
    cases h' with
    | unread hu' | empty hu' => cases hu.symm.trans hu'
    | blank hu' hb' =>
      cases hu.symm.trans hu'
      rw [hb] at hb'
      cases hb'
    | text hu' hb' hp' =>
      cases hu.symm.trans hu'
      exact hp.unique hp' hx hy

/-- What is asked about some files, and the report on them, follow from what is read. -/
theorem Taken.unique {paths : List Path} {t t' : Except ServiceError IntakeReport}
    (h : Taken fs settings files paths xs t) (h' : Taken fs settings files' paths ys t')
    (same : ∀ p ∈ paths, readUnit fs p files = readUnit fs p files')
    (hx : ∀ x ∈ xs, x.AnsweredBy parse emit) (hy : ∀ y ∈ ys, y.AnsweredBy parse emit) :
    xs = ys ∧ t = t' := by
  induction h generalizing ys t' with
  | nil =>
    cases h'
    exact ⟨rfl, rfl⟩
  | next hf ho _ ih =>
    obtain ⟨first, others⟩ := List.forall_mem_cons.1 same
    obtain ⟨hxf, hxr⟩ := List.forall_mem_append.1 hx
    cases h' with
    | next hf' ho' hr' =>
      obtain ⟨hyf, hyr⟩ := List.forall_mem_append.1 hy
      obtain ⟨rfl, rfl⟩ := hf.unique hf' first hxf hyf
      cases ho.symm.trans ho'
      obtain ⟨rfl, rfl⟩ := ih hr' others hxr hyr
      exact ⟨rfl, rfl⟩
    | outOfMemory hf' ho' =>
      obtain ⟨-, rfl⟩ := hf.unique hf' first hxf hy
      cases ho.symm.trans ho'
  | outOfMemory hf ho =>
    have first := (List.forall_mem_cons.1 same).1
    cases h' with
    | next hf' ho' =>
      obtain ⟨-, rfl⟩ := hf.unique hf' first hx (List.forall_mem_append.1 hy).1
      cases ho.symm.trans ho'
    | outOfMemory hf' ho' =>
      obtain ⟨rfl, rfl⟩ := hf.unique hf' first hx hy
      cases ho.symm.trans ho'
      exact ⟨rfl, rfl⟩

end Intake

end

/-! ## A compiler that answers by rules -/

namespace Scripted

/-- The service whose answers are set by rules alone. -/
def ruled (rules : Rules) : CompileService Unit Code where
  parse := fun source _ s => (parse rules source, s)
  emit := fun request s => ((emit rules request []).1, s)
  compileScript := fun request s => (compileScript rules request, s)
  run := fun code context s => (run code context, s)

theorem ruled_answersBy (rules : Rules) :
    (ruled rules).AnswersBy (fun source _ => parse rules source)
      fun request => (emit rules request []).1 where
  parse _ _ _ := rfl
  emit _ _ := rfl

end Scripted
end PluginForge
