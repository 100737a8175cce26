/-
Running out of memory. It is the one failure of the compiler that ends everything: the exchange in
which it happens is the last one, whether files are taken in or groups are built, and no other
failure or crash ends an intake or a build of groups early.
-/
import PluginForge.Proofs.Accounting
import PluginForge.Proofs.Discovery

namespace PluginForge

variable {φ σ ρ : Type}

/-- Whether a result is the failure that ends everything that is going on. -/
def ServiceError.ends {α : Type} : Except ServiceError α → Bool
  | .ok _ => false
  | .error e => e.isOutOfMemory

/-- Whether an intake failed with the failure that ends everything. -/
def IntakeError.ends {α : Type} : Except IntakeError α → Bool
  | .error (.service e) => e.isOutOfMemory
  | _ => false

/-- Whether a call failed because the compiler ran out of memory. -/
def Outcome.isExhausted {α : Type} : Outcome α → Bool
  | .failure e => e.isOutOfMemory
  | _ => false

theorem Outcome.isExhausted_eq_ends {α : Type} {r : Outcome α} {a : Except ServiceError α}
    (h : r.guarded = a) : r.isExhausted = ServiceError.ends a := by
  subst h
  cases r <;> rfl

/-! ## Exchanges -/

namespace Exchange

/-- Whether the compiler ran out of memory when it parsed a source or emitted a library. -/
def isExhausted : Exchange ρ → Bool
  | .parse _ _ r => r.isExhausted
  | .emit _ r => r.isExhausted
  | .compileScript .. | .run .. => false

/-- The compiler runs out of memory in the last exchange and no other (`true`), or in none. -/
inductive Halts : List (Exchange ρ) → Bool → Prop
  | never {xs} (h : ∀ x ∈ xs, x.isExhausted = false) : Halts xs false
  | last {xs x} (h : ∀ y ∈ xs, y.isExhausted = false) (hx : x.isExhausted = true) :
      Halts (xs ++ [x]) true

namespace Halts

theorem nil : Halts ([] : List (Exchange ρ)) false :=
  .never (by simp)

theorem singleton {x : Exchange ρ} {b : Bool} (hx : x.isExhausted = b) : Halts [x] b := by
  cases b with
  | false => exact .never (by simpa using hx)
  | true =>
    rw [← List.nil_append [x]]
    exact .last (by simp) hx

theorem append {xs ys : List (Exchange ρ)} {b : Bool} (hx : Halts xs false) (hy : Halts ys b) :
    Halts (xs ++ ys) b := by
  cases hx with
  | never hx =>
    cases hy with
    | never hy => exact .never fun x hm => (List.mem_append.1 hm).elim (hx x) (hy x)
    | last hy hl =>
      rw [← List.append_assoc]
      exact .last (fun x hm => (List.mem_append.1 hm).elim (hx x) (hy x)) hl

theorem exists_iff {xs : List (Exchange ρ)} {b : Bool} (h : Halts xs b) :
    (∃ x ∈ xs, x.isExhausted = true) ↔ b = true := by
  cases h with
  | never h => simpa using h
  | last h hx => simpa using .inr hx

/-- Nothing follows an exchange in which the compiler runs out of memory. -/
theorem eq_nil {xs ys zs : List (Exchange ρ)} {x : Exchange ρ} {b : Bool} (h : Halts xs b)
    (he : xs = ys ++ x :: zs) (hx : x.isExhausted = true) : zs = [] := by
  cases h with
  | never h =>
    have hf := h x (by simp [he])
    rw [hx] at hf
    cases hf
  | @last xs y h _ =>
    rcases List.eq_nil_or_concat zs with hz | ⟨ws, w, rfl⟩
    · exact hz
    · have hxs : xs = ys ++ x :: ws := by
        have hl : xs ++ [y] = (ys ++ x :: ws) ++ [w] := by simpa using he
        exact (List.append_inj' hl rfl).1
      have hf := h x (by simp [hxs])
      rw [hx] at hf
      cases hf

end Halts
end Exchange

open Exchange

/-! ## Intake -/

namespace Intake

variable {fs : FileSystem φ} {settings : Settings} {files : φ} {p : Path} {paths : List Path}
  {xs : List (Exchange ρ)}

theorem Parsing.halts {text : String} {r : Except ServiceError FileOutcome}
    (h : Parsing settings p text xs r) : Halts xs (ServiceError.ends r) := by
  cases h with
  | fault h => exact .singleton (Outcome.isExhausted_eq_ends h :)
  | invalid | complete => exact .singleton rfl
  | faultAgain _ _ h =>
    exact (Halts.singleton (b := false) rfl).append (.singleton (Outcome.isExhausted_eq_ends h :))
  | parsedAgain => exact (Halts.singleton (b := false) rfl).append (.singleton rfl)

theorem FileIntake.halts {r : Except ServiceError FileOutcome}
    (h : FileIntake fs settings files p xs r) : Halts xs (ServiceError.ends r) := by
  cases h with
  | unread | empty | blank => exact .nil
  | text _ _ hp => exact hp.halts

/-- A file is settled unless the compiler ran out of memory. -/
theorem settled_cases (r : Except ServiceError FileOutcome) :
    ServiceError.ends r = false ∧ (∃ o, settled r = .ok o) ∨
      ∃ e, settled r = .error e ∧ r = .error e ∧ e.isOutOfMemory = true := by
  cases r with
  | ok o => exact .inl ⟨rfl, o, rfl⟩
  | error e =>
    cases he : e.isOutOfMemory with
    | false => exact .inl ⟨he, _, by simp [settled, he]; rfl⟩
    | true => exact .inr ⟨e, by simp [settled, he], rfl, he⟩

/-- An intake fails with the exchange in which the compiler runs out of memory, and only then. -/
theorem Taken.halts {r : Except ServiceError IntakeReport}
    (h : Taken fs settings files paths xs r) :
    Halts xs (ServiceError.ends r) ∧ ∀ e, r = .error e → e.isOutOfMemory = true := by
  induction h with
  | nil => exact ⟨.nil, fun e he => by cases he⟩
  | @next p rest xs ys r o report hf ho _ ih =>
    obtain ⟨hr, _⟩ | ⟨e, he, _, _⟩ := settled_cases r
    · have hfile : Halts xs false := hr ▸ hf.halts
      cases report with
      | error e => exact ⟨hfile.append ih.1, ih.2⟩
      | ok report => exact ⟨hfile.append ih.1, fun e he => by cases he⟩
    · rw [ho] at he
      cases he
  | @outOfMemory p rest xs r e hf ho =>
    obtain ⟨_, o, hr⟩ | ⟨e', he, rfl, hm⟩ := settled_cases r
    · rw [ho] at hr
      cases hr
    · rw [ho] at he
      cases he
      exact ⟨hf.halts, fun e he => by cases he; exact hm⟩

/-- Of the compiler's failures, the intake of the sources below a root ends with none but the lack
of memory, and with that only after the exchange in which it happens. -/
theorem ingest_halts (service : CompileService σ ρ) (fs : FileSystem φ) (settings : Settings)
    (root : Path) (files : φ) (t : Traced σ ρ) {r : Except IntakeError IntakeReport} {files' : φ}
    {t' : Traced σ ρ} (h : ingest fs service.traced settings root files t = (r, files', t')) :
    ∃ xs, t'.exchanges = t.exchanges ++ xs ∧ Halts xs (IntakeError.ends r) ∧
      ∀ e, r = .error (.service e) → e.isOutOfMemory = true := by
  unfold ingest at h
  rcases hd : discover fs settings root files with ⟨d, files''⟩
  rw [hd] at h
  cases d with
  | error err =>
    have hs := discover_ne_service hd
    cases h
    refine ⟨[], (List.append_nil _).symm, ?_, fun e he => ?_⟩
    · cases err with
      | service e => exact absurd rfl (hs e)
      | _ => exact .nil
    · cases he
      exact absurd rfl (hs e)
  | ok paths =>
    obtain ⟨-, rfl⟩ := discover_eq_ok hd
    obtain ⟨xs, taken, hx, hr, ht⟩ := ingestAll_taken service fs settings files'' ⟨[], []⟩ paths t
    obtain ⟨hh, hm⟩ := ht.halts
    simp only [Prod.mk.injEq] at h
    obtain ⟨rfl, rfl, rfl⟩ := h
    rw [hr]
    cases taken with
    | error e =>
      refine ⟨xs, hx, hh, fun e' he => ?_⟩
      cases he
      exact hm e rfl
    | ok report => exact ⟨xs, hx, hh, nofun⟩

end Intake

/-! ## Building -/

theorem GroupCompile.Run.halts {retries attempts removed : Nat} {request : EmitRequest}
    {as : List Attempt} {result : Except ServiceError GroupCompile}
    (h : GroupCompile.Run retries attempts removed request as result) :
    Halts (as.map Attempt.exchange : List (Exchange ρ)) (ServiceError.ends result) := by
  induction h with
  | fault h => exact .singleton (Outcome.isExhausted_eq_ends h :)
  | success | stop => exact .singleton rfl
  | retry _ _ _ ih => exact (Halts.singleton (b := false) rfl).append ih

namespace Engine

variable (e : Engine φ σ ρ)

/-- A group fails to have an outcome only if the compiler runs out of memory. -/
theorem buildGroup_ends (references : List Path) (t : TimeStamp) (g : CompilationGroup)
    (s : EngineState φ σ ρ) :
    ServiceError.ends (e.buildGroup references t g s).1 =
        ServiceError.ends (e.compileGroup references g s).1 ∧
      ∀ err, (e.buildGroup references t g s).1 = .error err → err.isOutOfMemory = true := by
  unfold buildGroup
  rcases e.compileGroup references g s with ⟨r, s'⟩
  cases r with
  | error err =>
    dsimp only
    split
    · rename_i hm
      exact ⟨rfl, fun err' he => by cases he; exact hm⟩
    · rename_i hm
      exact ⟨(Bool.eq_false_iff.2 hm).symm, fun err' he => by cases he⟩
  | ok c =>
    dsimp only
    split <;> exact ⟨rfl, fun err he => by cases he⟩

variable {e} in
/-- Groups are built one after the other, whatever becomes of each, until the compiler runs out of
memory. -/
theorem Builds.halts {references : List Path} {clock : Nat → TimeStamp} {index : Nat}
    {groups : List CompilationGroup} {s s' : EngineState φ (Traced σ ρ) ρ}
    {outcomes : List GroupOutcome} {stop : Option ServiceError}
    (h : e.traced.Builds references clock index groups s outcomes stop s') :
    ∃ xs, s'.service.exchanges = s.service.exchanges ++ xs ∧ Halts xs stop.isSome ∧
      ∀ err, stop = some err → err.isOutOfMemory = true := by
  have one (index : Nat) (g : CompilationGroup) (s : EngineState φ (Traced σ ρ) ρ) :
      ∃ xs, (e.traced.buildGroup references (clock index) g s).2.service.exchanges =
          s.service.exchanges ++ xs ∧
        Halts xs (ServiceError.ends (e.traced.buildGroup references (clock index) g s).1) := by
    obtain ⟨as, hx, hrun⟩ := e.buildGroup_run references (clock index) g s
    exact ⟨_, hx, (e.traced.buildGroup_ends references (clock index) g s).1 ▸ hrun.halts⟩
  induction h with
  | done => exact ⟨[], (List.append_nil _).symm, .nil, nofun⟩
  | @next index g rest s o s' _ _ _ built _ ih =>
    obtain ⟨xs, hx, hh⟩ := one index g s
    obtain ⟨ys, hy, hr, hm⟩ := ih
    rw [built] at hx hh
    exact ⟨xs ++ ys, by rw [hy, hx, List.append_assoc], hh.append hr, hm⟩
  | @ended index g rest s err s' refused =>
    obtain ⟨xs, hx, hh⟩ := one index g s
    have hm := (e.traced.buildGroup_ends references (clock index) g s).2 err
      (congrArg Prod.fst refused)
    rw [refused] at hx hh
    have hends : ServiceError.ends (.error err : Except ServiceError GroupOutcome) = true := hm
    rw [hends] at hh
    exact ⟨xs, hx, hh, fun err' he => by cases he; exact hm⟩

end Engine
end PluginForge
