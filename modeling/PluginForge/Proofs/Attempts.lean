/-
The attempts at one group. `GroupCompile.Run` says which attempts may follow each other and how they
end, without the service: it is what the compile loop does whatever the service answers. What holds
of the attempts at a group is proved by induction on it.
-/
import PluginForge.Build.Compile
import PluginForge.Proofs.Exchange
import PluginForge.Proofs.Prune

namespace PluginForge

open MissingSymbol

/-- A state of the attempts with the service's part seen through `f`. -/
def CompileState.map {σ τ : Type} (f : σ → τ) (s : CompileState σ) : CompileState τ :=
  ⟨f s.service, s.phases⟩

namespace GroupCompile

/-- How many imports the errors of an output point at in the sources of a request. -/
def removable (request : EmitRequest) (output : EmitOutput) : Nat :=
  (prune request.sources (offendingNames output.diagnostics)).2

/-- The request without the imports that the errors of an output point at. -/
def repaired (request : EmitRequest) (output : EmitOutput) : EmitRequest :=
  { request with sources := (prune request.sources (offendingNames output.diagnostics)).1 }

/-- With so many retries left, after so many attempts and removed imports, the attempts `as` are
made, the first of them with `request`, and end in `result`. -/
inductive Run : (retries attempts removed : Nat) → EmitRequest → List Attempt →
    Except ServiceError GroupCompile → Prop
  | fault {retries attempts removed request answer e}
      (h : Outcome.guarded answer = .error e) :
      Run retries attempts removed request [⟨request, answer⟩] (.error e)
  | success {retries attempts removed request output} (h : output.success = true) :
      Run retries attempts removed request [⟨request, .answer output⟩]
        (.ok ⟨attempts + 1, removed, output, none⟩)
  | stop {retries attempts removed request output reason} (h : output.success = false)
      (hr : stopReason? retries (removable request output) output.diagnostics = some reason) :
      Run retries attempts removed request [⟨request, .answer output⟩]
        (.ok ⟨attempts + 1, removed, output, some reason⟩)
  | retry {retries attempts removed request output as result} (h : output.success = false)
      (hr : stopReason? (retries + 1) (removable request output) output.diagnostics = none)
      (hn : Run retries (attempts + 1) (removed + removable request output)
        (repaired request output) as result) :
      Run (retries + 1) attempts removed request (⟨request, .answer output⟩ :: as) result

/-- The cases in which a failed attempt is the last one, and the one in which it is not. -/
theorem stopReason?_cases (n k : Nat) (ds : List Diagnostic) :
    (∀ d ∈ ds, reports d = false) ∧ stopReason? n k ds = some .notRetryable ∨
    (∃ d ∈ ds, reports d = true) ∧
      (n = 0 ∧ stopReason? n k ds = some .retriesExhausted ∨
        0 < n ∧ k = 0 ∧ stopReason? n k ds = some .nothingToRemove ∨
        0 < n ∧ 0 < k ∧ stopReason? n k ds = none) := by
  cases hr : ds.any reports with
  | false =>
    refine .inl ⟨fun d hd => ?_, by simp [stopReason?, hr]⟩
    exact Bool.eq_false_iff.2 (List.any_eq_false.1 hr d hd)
  | true =>
    refine .inr ⟨List.any_eq_true.1 hr, ?_⟩
    rcases Nat.eq_zero_or_pos n with hn | hn
    · exact .inl ⟨hn, by simp [stopReason?, hr, hn]⟩
    · have hn' : n ≠ 0 := Nat.ne_of_gt hn
      rcases Nat.eq_zero_or_pos k with hk | hk
      · exact .inr (.inl ⟨hn, hk, by simp [stopReason?, hr, hn', hk]⟩)
      · have hk' : k ≠ 0 := Nat.ne_of_gt hk
        exact .inr (.inr ⟨hn, hk, by simp [stopReason?, hr, hn', hk']⟩)

theorem pos_of_stopReason?_eq_none {n k : Nat} {ds : List Diagnostic}
    (h : stopReason? n k ds = none) : 0 < n ∧ 0 < k := by
  rcases stopReason?_cases n k ds with ⟨_, hs⟩ | ⟨_, ⟨_, hs⟩ | ⟨_, _, hs⟩ | ⟨hn, hk, _⟩⟩
  · rw [h] at hs; cases hs
  · rw [h] at hs; cases hs
  · rw [h] at hs; cases hs
  · exact ⟨hn, hk⟩

theorem stopReason?_zero (k : Nat) (ds : List Diagnostic) : stopReason? 0 k ds ≠ none :=
  fun h => Nat.lt_irrefl 0 (pos_of_stopReason?_eq_none h).1

variable {σ τ ρ : Type}

/-! ## The compile loop -/

/-- One round of the compile loop. -/
theorem compileFrom_eq (service : CompileService σ ρ) (retries attempts removed : Nat)
    (request : EmitRequest) (s : CompileState σ) :
    compileFrom service retries attempts removed request s =
      match emitOnce service request s with
      | (.error e, s) => (.error e, s)
      | (.ok output, s) =>
        if output.success then (.ok ⟨attempts + 1, removed, output, none⟩, s)
        else
          match stopReason? retries (removable request output) output.diagnostics with
          | some reason => (.ok ⟨attempts + 1, removed, output, some reason⟩, s)
          | none =>
            compileFrom service (retries - 1) (attempts + 1) (removed + removable request output)
              (repaired request output) (s.enter .retrying) := by
  rw [compileFrom.eq_def]
  rcases emitOnce service request s with ⟨r, s'⟩
  cases r with
  | error e => rfl
  | ok output =>
    dsimp only
    split
    · rfl
    · cases hr : stopReason? retries (removable request output) output.diagnostics with
      | none =>
        cases retries with
        | zero => exact absurd hr (stopReason?_zero _ _)
        | succ n =>
          unfold removable at hr
          simp only [hr]
          rfl
      | some reason =>
        unfold removable at hr
        cases retries <;> simp only [hr]

/-- One attempt is one exchange. -/
theorem emitOnce_traced (service : CompileService σ ρ) (request : EmitRequest)
    (s : CompileState (Traced σ ρ)) :
    ∃ answer, (emitOnce service.traced request s).1 = answer.guarded ∧
      (emitOnce service.traced request s).2.service.exchanges =
        s.service.exchanges ++ [.emit request answer] :=
  ⟨_, rfl, rfl⟩

/-- What the compile loop does is a run of attempts, and these are its exchanges. -/
theorem compileFrom_run (service : CompileService σ ρ) (retries attempts removed : Nat)
    (request : EmitRequest) (s : CompileState (Traced σ ρ)) :
    ∃ as, (compileFrom service.traced retries attempts removed request s).2.service.exchanges =
        s.service.exchanges ++ as.map Attempt.exchange ∧
      Run retries attempts removed request as
        (compileFrom service.traced retries attempts removed request s).1 := by
  obtain ⟨answer, ha, hx⟩ := emitOnce_traced service request s
  rw [compileFrom_eq]
  generalize emitOnce service.traced request s = p at ha hx ⊢
  obtain ⟨r, s'⟩ := p
  dsimp only at ha hx ⊢
  cases r with
  | error e => exact ⟨[⟨request, answer⟩], hx, .fault ha.symm⟩
  | ok output =>
    obtain rfl := Outcome.guarded_eq_ok ha.symm
    dsimp only
    split
    · exact ⟨[⟨request, .answer output⟩], hx, .success ‹_›⟩
    · rename_i hs
      split
      · exact ⟨[⟨request, .answer output⟩], hx, .stop (by simpa using hs) ‹_›⟩
      · rename_i hr
        cases retries with
        | zero => exact absurd hr (stopReason?_zero _ _)
        | succ n =>
          obtain ⟨as, hx', hrun⟩ := compileFrom_run service n (attempts + 1)
            (removed + removable request output) (repaired request output) (s'.enter .retrying)
          refine ⟨⟨request, .answer output⟩ :: as, ?_, .retry (by simpa using hs) hr hrun⟩
          rw [Nat.add_sub_cancel, hx']
          show s'.service.exchanges ++ _ = _
          rw [hx, List.append_assoc]
          rfl

/-! ## Runs -/

namespace Run

variable {retries attempts removed : Nat} {request : EmitRequest} {as : List Attempt}
  {result : Except ServiceError GroupCompile}

theorem head (h : Run retries attempts removed request as result) :
    ∃ answer rest, as = ⟨request, answer⟩ :: rest := by
  cases h <;> exact ⟨_, _, rfl⟩

/-- What holds of the first request and outlasts repairs holds of all requests. -/
theorem forall_request {P : EmitRequest → Prop}
    (h : Run retries attempts removed request as result) (hp : P request)
    (hr : ∀ request output, P request → P (repaired request output)) :
    ∀ a ∈ as, P a.request := by
  induction h with
  | fault | success | stop => simpa using hp
  | @retry _ _ _ request output _ _ _ _ _ ih =>
    simpa using ⟨hp, ih (hr request output hp)⟩

theorem length_le (h : Run retries attempts removed request as result) :
    as.length ≤ retries + 1 := by
  induction h with
  | retry _ _ _ ih => exact Nat.succ_le_succ ih
  | fault | success | stop => exact Nat.le_add_left _ _

/-- Every attempt but the first needs directives to be removed from the sources. -/
theorem length_le_directives (h : Run retries attempts removed request as result) :
    as.length ≤ directives request.sources + 1 := by
  induction h with
  | @retry _ _ _ request output _ _ _ hr _ ih =>
    have hn := (pos_of_stopReason?_eq_none hr).2
    have hd := directives_prune (offendingNames output.diagnostics) request.sources
    simp only [repaired, removable, List.length_cons] at ih hn ⊢
    omega
  | fault | success | stop => exact Nat.le_add_left _ _

theorem length_le_min (h : Run retries attempts removed request as result) :
    as.length ≤ min retries (directives request.sources) + 1 := by
  have byRetries := h.length_le
  have byDirectives := h.length_le_directives
  omega

/-- A run fails with its last attempt. -/
theorem getLast_error {e : ServiceError} (h : Run retries attempts removed request as (.error e)) :
    ∃ last, as.getLast? = some last ∧ last.answer.guarded = .error e := by
  generalize hr : Except.error e = result at h
  induction h with
  | fault h => cases hr; exact ⟨_, rfl, h⟩
  | success | stop => cases hr
  | retry _ _ hn ih =>
    obtain ⟨answer, rest, rfl⟩ := hn.head
    obtain ⟨last, hl, he⟩ := ih hr
    exact ⟨last, by rw [List.getLast?_cons_cons, hl], he⟩

/-- A run ends with the output of its last attempt: either it is a success, or it gives a reason to
stop with the retries that are left then. -/
theorem getLast_ok {c : GroupCompile} (h : Run retries attempts removed request as (.ok c)) :
    ∃ request, as.getLast? = some ⟨request, .answer c.output⟩ ∧
      (c.output.success = true ∧ c.stopReason = none ∨
        c.output.success = false ∧ ∃ reason, c.stopReason = some reason ∧
          stopReason? (retries + 1 - as.length) (removable request c.output)
            c.output.diagnostics = some reason) := by
  generalize hr : Except.ok c = result at h
  induction h with
  | fault => cases hr
  | success h => cases hr; exact ⟨_, rfl, .inl ⟨h, rfl⟩⟩
  | stop h hs => cases hr; exact ⟨_, rfl, .inr ⟨h, _, rfl, hs⟩⟩
  | retry _ _ hn ih =>
    obtain ⟨answer, rest, rfl⟩ := hn.head
    obtain ⟨request, hl, hc⟩ := ih hr
    refine ⟨request, by rw [List.getLast?_cons_cons, hl], ?_⟩
    rwa [List.length_cons, Nat.add_sub_add_right]

end Run

/-! ## Noting the exchanges -/

theorem emitOnce_simulates {S : CompileService σ ρ} {T : CompileService τ ρ} {f : σ → τ}
    (h : S.Simulates T f) (request : EmitRequest) (s : CompileState σ) :
    emitOnce T request (s.map f) = Prod.map id (CompileState.map f) (emitOnce S request s) := by
  have he := h.emit request s.service
  simp only [emitOnce, CompileState.map, CompileState.enter, he]
  rfl

/-- Services that simulate each other make the same compiles. -/
theorem compileFrom_simulates {S : CompileService σ ρ} {T : CompileService τ ρ} {f : σ → τ}
    (h : S.Simulates T f) (retries attempts removed : Nat) (request : EmitRequest)
    (s : CompileState σ) :
    compileFrom T retries attempts removed request (s.map f) =
      Prod.map id (CompileState.map f) (compileFrom S retries attempts removed request s) := by
  rw [compileFrom_eq, compileFrom_eq, emitOnce_simulates h]
  rcases emitOnce S request s with ⟨r, s'⟩
  cases r with
  | error e => rfl
  | ok output =>
    simp only [Prod.map_apply, id_eq]
    split
    · rfl
    · split
      · rfl
      · rename_i hr
        cases retries with
        | zero => exact absurd hr (stopReason?_zero _ _)
        | succ n => exact compileFrom_simulates h n _ _ _ (s'.enter .retrying)

end GroupCompile

namespace CompilationGroup

variable {σ ρ : Type} (service : CompileService σ ρ) (settings : Settings) (references : List Path)
  (g : CompilationGroup) (s : CompileState σ)

/-- The state in which the exchanges of a compile are noted from its start on. -/
def traceStart : CompileState (Traced σ ρ) :=
  ⟨.start s.service, s.phases⟩

/-- The attempts that are made when a group is compiled. -/
def attempts : List Attempt :=
  Exchange.attempts
    (g.compile service.traced settings references (traceStart s)).2.service.exchanges

/-- A group is compiled alike whether or not its exchanges are noted. -/
theorem compile_traced :
    g.compile service settings references s =
      Prod.map id (CompileState.map Traced.state)
        (g.compile service.traced settings references (traceStart (ρ := ρ) s)) :=
  GroupCompile.compileFrom_simulates service.traced_simulates _ _ _ _ (traceStart s)

/-- The attempts at a group are a run that ends as its compile does. -/
theorem attempts_run :
    GroupCompile.Run settings.retryCount.toNat 0 0 (g.request settings.languageVersion references)
      (g.attempts service settings references s)
      (g.compile service settings references s).1 := by
  obtain ⟨as, hx, hr⟩ := GroupCompile.compileFrom_run service settings.retryCount.toNat 0 0
    (g.request settings.languageVersion references) (traceStart s)
  have ha : g.attempts service settings references s = as := by
    unfold attempts compile
    rw [hx]
    exact Exchange.attempts_map_exchange as
  rw [ha, compile_traced]
  exact hr

end CompilationGroup
end PluginForge
