/-
The compiled scripts, told by what happened before. For each key the last event counts that was a
successful compile or an eviction: what a request to have a script compiled does, and which code a
run gets, depends on that event alone, however many calls of which kinds there were.

The shelf agrees with the events so far (`Agrees`); every event keeps that up and fits what came
before it.
-/
import PluginForge.Proofs.ScriptExchange

namespace PluginForge

open Script

variable {φ σ ρ : Type}

/-! ## Events -/

/-- A request to have a script compiled, as it is seen from outside: what was asked for, what there
was to reference, what passed to and from the compiler, how it ended, and the shelf before and after
it. -/
structure Submission (ρ : Type) where
  name : String
  source : String
  imports : List String
  references : Except ReferenceError (List Path)
  exchanges : List (Exchange ρ)
  result : Except ScriptError PrecompileStatus
  before : Script.Shelf ρ
  after : Script.Shelf ρ

namespace Submission

def hash (x : Submission ρ) : String :=
  contentHash x.source x.imports

/-- The code that the compiler brought, if it was asked once and that was a success with code. -/
def code? (x : Submission ρ) : Option ρ :=
  match x.exchanges with
  | [.compileScript _ answer] => answer.code?
  | _ => none

end Submission

/-- A run of a script, as it is seen from outside. -/
structure Invocation (ρ : Type) where
  name : String
  context : Json
  exchanges : List (Exchange ρ)
  result : Except ScriptError Json
  before : Script.Shelf ρ
  after : Script.Shelf ρ

/-- What happens to the compiled scripts. An eviction takes one of them off the shelf, or all. -/
inductive ScriptEvent (ρ : Type) where
  | submission (x : Submission ρ)
  | eviction (name : Option String)
  | invocation (x : Invocation ρ)

namespace ScriptEvent

/-- What an event makes of the script under a key: a successful compile leaves the hash of what was
compiled and its code, an eviction leaves nothing, and other events change nothing. -/
def effect? (k : String) : ScriptEvent ρ → Option (Option (String × ρ))
  | .submission x => if key x.name = k then x.code?.map fun code => some (x.hash, code) else none
  | .eviction (some name) => if key name = k then some none else none
  | .eviction none => some none
  | .invocation _ => none

/-- What the last event leaves of the script under a key, among those that make something of it. -/
def standing (k : String) (past : List (ScriptEvent ρ)) : Option (String × ρ) :=
  (past.reverse.findSome? (effect? k)).join

theorem standing_concat (k : String) (past : List (ScriptEvent ρ)) (x : ScriptEvent ρ) :
    standing k (past ++ [x]) = (x.effect? k).getD (standing k past) := by
  rw [standing, List.reverse_append, List.reverse_singleton, List.singleton_append,
    List.findSome?_cons]
  cases x.effect? k <;> rfl

end ScriptEvent

/-! ## What fits -/

/-- A request fits what stands under its key. -/
structure Submission.Fits (standing : Option (String × ρ)) (x : Submission ρ) : Prop where
  /-- The same content is not compiled again. -/
  cached : x.result = .ok .cached ↔ ∃ code, standing = some (x.hash, code)
  unasked : x.result = .ok .cached → x.exchanges = []
  /-- Other content is compiled once if there is something to reference. -/
  asks : (¬ ∃ code, standing = some (x.hash, code)) →
    match x.references with
    | .ok _ => ∃ request answer, x.exchanges = [.compileScript request answer]
    | .error _ => x.exchanges = []
  compiled : x.result = .ok .compiled ↔ ∃ code, x.code? = some code
  kept : x.result ≠ .ok .compiled → x.after = x.before

/-- A run fits what stands under its key: it runs the code of that and no other. -/
structure Invocation.Fits (standing : Option (String × ρ)) (x : Invocation ρ) : Prop where
  notCompiled : x.result = .error (.notCompiled x.name) ↔ standing = none
  runs : match standing with
    | some (_, code) => ∃ answer, x.exchanges = [.run code x.context answer]
    | none => x.exchanges = []
  kept : x.after = x.before

/-- An event fits the events before it. -/
def ScriptEvent.Fits (past : List (ScriptEvent ρ)) : ScriptEvent ρ → Prop
  | .submission x => x.Fits (standing (key x.name) past)
  | .eviction _ => True
  | .invocation x => x.Fits (standing (key x.name) past)

/-- Each event that goes on from a past fits the events before it. -/
def ScriptEvent.AllFit (past xs : List (ScriptEvent ρ)) : Prop :=
  ∀ mid x rest, xs = mid ++ x :: rest → x.Fits (past ++ mid)

/-! ## Calls -/

/-- A call about scripts, or a change of the files by someone else. -/
inductive ScriptCall (φ : Type) where
  | precompile (name source : String) (imports : List String)
  | recompile (name source : String) (imports : List String)
  | precompileDir (dir : Path) (imports : List String)
  | run (name : String) (context : Json) (limit : Nat)
  | clear (name : Option String)
  | change (files : φ)

namespace Engine

variable (e : Engine φ σ ρ)

def submission (name source : String) (imports : List String) (s : EngineState φ σ ρ) :
    Submission ρ where
  name
  source
  imports
  references := (e.takeReferences s).1
  exchanges := e.precompileExchanges name source imports s
  result := (e.precompile name source imports s).1
  before := s.scripts
  after := (e.precompile name source imports s).2.scripts

def invocation (name : String) (context : Json) (limit : Nat) (s : EngineState φ σ ρ) :
    Invocation ρ where
  name
  context
  exchanges := e.runExchanges name context limit s
  result := (e.run name context limit s).1
  before := s.scripts
  after := (e.run name context limit s).2.scripts

/-- The requests for the scripts of some files, as `precompileFiles` makes them. -/
def submissions (imports : List String) :
    List Path → EngineState φ σ ρ → List (ScriptEvent ρ)
  | [], _ => []
  | p :: rest, s =>
    match p.stem?, e.readScript p s.files with
    | some name, .ok source =>
      .submission (e.submission name source imports s) ::
        submissions imports rest (e.precompile name source imports s).2
    | _, _ => submissions imports rest s

/-- The script files of a directory. -/
def scriptFiles (dir : Path) (files : φ) : List Path :=
  if e.store.isDir dir files then
    match e.store.list dir scriptExtension true files with
    | .ok paths => paths
    | .error _ => []
  else []

/-- The state after a call. -/
def perform (s : EngineState φ σ ρ) : ScriptCall φ → EngineState φ σ ρ
  | .precompile name source imports => (e.precompile name source imports s).2
  | .recompile name source imports => (e.recompile name source imports s).2
  | .precompileDir dir imports => (e.precompileDir dir imports s).2
  | .run name context limit => (e.run name context limit s).2
  | .clear name => (s.clearScripts name).2
  | .change files => { s with files }

/-- What happens in a call. -/
def events (s : EngineState φ σ ρ) : ScriptCall φ → List (ScriptEvent ρ)
  | .precompile name source imports => [.submission (e.submission name source imports s)]
  | .recompile name source imports =>
    [.eviction (some name),
      .submission (e.submission name source imports { s with scripts := s.scripts.erase name })]
  | .precompileDir dir imports => e.submissions imports (e.scriptFiles dir s.files) s
  | .run name context limit => [.invocation (e.invocation name context limit s)]
  | .clear name => [.eviction name]
  | .change _ => []

/-- What happens in calls that are made one after the other. -/
def history : List (ScriptCall φ) → EngineState φ σ ρ → List (ScriptEvent ρ)
  | [], _ => []
  | c :: rest, s => e.events s c ++ history rest (e.perform s c)

end Engine

/-! ## Single events -/

/-- What a shelf has under a name, as events leave it. -/
def Script.Shelf.standing (shelf : Script.Shelf ρ) (name : String) : Option (String × ρ) :=
  (shelf.find? name).map fun entry => (entry.contentHash, entry.code)

theorem Script.Shelf.standing_eq_some_iff {shelf : Script.Shelf ρ} {name hash : String} :
    (∃ code, shelf.standing name = some (hash, code)) ↔ shelf.holds name hash = true := by
  rw [holds_iff, standing]
  cases shelf.find? name <;> simp

namespace Engine

variable {e : Engine φ σ ρ} {name source : String} {imports : List String}
  {s : EngineState φ σ ρ} {xs : List (Exchange ρ)}

theorem Compiling.asks {r : Except ScriptError ρ} (h : e.Compiling name source imports s xs r) :
    match (e.takeReferences s).1 with
    | .ok _ => ∃ request answer, xs = [.compileScript request answer]
    | .error _ => xs = [] := by
  cases h with
  | noReferences refs => rw [refs]
  | compiled refs | failed refs =>
    rw [refs]
    exact ⟨_, _, rfl⟩

theorem Precompiling.fits {r : Except ScriptError PrecompileStatus} {after : Script.Shelf ρ}
    (h : e.Precompiling name source imports s xs r after) :
    Submission.Fits (s.scripts.standing name)
      ⟨name, source, imports, (e.takeReferences s).1, xs, r, s.scripts, after⟩ := by
  have hs := @Script.Shelf.standing_eq_some_iff _ s.scripts name (contentHash source imports)
  cases h with
  | cached held =>
    have hx := hs.2 held
    constructor
    case cached => exact ⟨fun _ => hx, fun _ => rfl⟩
    case unasked => exact fun _ => rfl
    case asks => exact fun hn => absurd hx hn
    case compiled => exact ⟨nofun, nofun⟩
    case kept => exact fun _ => rfl
  | compiled held h =>
    rw [← Bool.not_eq_true, ← hs] at held
    constructor
    case cached => exact ⟨nofun, fun hc => absurd hc held⟩
    case unasked => nofun
    case asks => exact fun _ => h.asks
    case compiled =>
      cases h with
      | compiled _ h => exact ⟨fun _ => ⟨_, h⟩, fun _ => rfl⟩
    case kept => exact fun hn => absurd rfl hn
  | failed held h =>
    rw [← Bool.not_eq_true, ← hs] at held
    constructor
    case cached => exact ⟨nofun, fun hc => absurd hc held⟩
    case unasked => nofun
    case asks => exact fun _ => h.asks
    case compiled =>
      cases h with
      | noReferences => exact ⟨nofun, nofun⟩
      | failed _ h =>
        refine ⟨nofun, fun ⟨code, hc⟩ => ?_⟩
        have hc : Outcome.code? _ = some code := hc
        rw [h] at hc
        cases hc
    case kept => exact fun _ => rfl

/-- The shelf after a request has what the request leaves. -/
theorem Precompiling.standing {r : Except ScriptError PrecompileStatus} {after : Script.Shelf ρ}
    (h : e.Precompiling name source imports s xs r after) (n : String) :
    after.standing n = (ScriptEvent.effect? (key n) (.submission
      ⟨name, source, imports, (e.takeReferences s).1, xs, r, s.scripts, after⟩)).getD
        (s.scripts.standing n) := by
  cases h with
  | cached => simp [ScriptEvent.effect?, Submission.code?]
  | compiled _ h =>
    cases h with
    | compiled _ h =>
      rw [Script.Shelf.standing, Script.Shelf.find?_insert]
      by_cases hk : key name = key n
      · simp [ScriptEvent.effect?, Submission.code?, Submission.hash, hk, h]
      · simp [ScriptEvent.effect?, hk, Script.Shelf.standing]
  | failed _ h =>
    cases h with
    | noReferences => simp [ScriptEvent.effect?, Submission.code?]
    | failed _ h => simp [ScriptEvent.effect?, Submission.code?, h]

theorem runOutcome_ne_notCompiled (name : String) (limit : Nat) (r : ScriptRun) :
    runOutcome name limit r ≠ .error (.notCompiled name) := by
  unfold runOutcome
  split
  · nofun
  · split <;> nofun

theorem Running.fits {context : Json} {limit : Nat} {r : Except ScriptError Json}
    (h : Running name context limit s xs r) :
    Invocation.Fits (s.scripts.standing name) ⟨name, context, xs, r, s.scripts, s.scripts⟩ := by
  unfold Script.Shelf.standing
  cases h with
  | absent h =>
    rw [h]
    exact ⟨⟨fun _ => rfl, fun _ => rfl⟩, rfl, rfl⟩
  | ran h =>
    rw [h]
    exact ⟨⟨fun he => absurd he (runOutcome_ne_notCompiled _ _ _), nofun⟩, ⟨_, rfl⟩, rfl⟩

end Engine

/-! ## Events in a row -/

/-- A shelf has what the last events leave. -/
def Script.Shelf.Agrees (shelf : Script.Shelf ρ) (past : List (ScriptEvent ρ)) : Prop :=
  ∀ name, shelf.standing name = ScriptEvent.standing (key name) past

/-- Events go on from a past: each fits what came before it, and in the end there is a shelf that
agrees with all of them. -/
structure Continues (past xs : List (ScriptEvent ρ)) (shelf : Script.Shelf ρ) : Prop where
  fits : ScriptEvent.AllFit past xs
  agrees : shelf.Agrees (past ++ xs)

namespace Continues

variable {past xs ys : List (ScriptEvent ρ)} {x : ScriptEvent ρ} {shelf shelf' : Script.Shelf ρ}

theorem nil (h : shelf.Agrees past) : Continues past [] shelf where
  fits mid x rest h := by simp at h
  agrees := by rwa [List.append_nil]

theorem append (h : Continues past xs shelf) (h' : Continues (past ++ xs) ys shelf') :
    Continues past (xs ++ ys) shelf' where
  fits mid x rest he := by
    rcases List.append_eq_append_iff.1 he with ⟨mid', rfl, hy⟩ | ⟨rest', rfl, hr⟩
    · rw [← List.append_assoc]
      exact h'.fits mid' x rest hy
    · cases rest' with
      | nil =>
        have hf := h'.fits [] x rest hr.symm
        rwa [List.append_nil, List.append_nil] at hf
      | cons y rest' =>
        obtain ⟨rfl, -⟩ := List.cons.inj hr
        exact h.fits mid x rest' rfl
  agrees := by
    rw [← List.append_assoc]
    exact h'.agrees

theorem single (hx : x.Fits past) (h : shelf.Agrees (past ++ [x])) : Continues past [x] shelf where
  fits mid y rest he := by
    cases mid with
    | nil =>
      obtain ⟨rfl, -⟩ := List.cons.inj he
      rwa [List.append_nil]
    | cons z mid => simp at he
  agrees := h

end Continues

/-! ## Calls in a row -/

namespace Engine

variable (e : Engine φ σ ρ) {past : List (ScriptEvent ρ)} {s : EngineState φ σ ρ}

theorem continues_submission (name source : String) (imports : List String)
    (h : s.scripts.Agrees past) :
    Continues past [.submission (e.submission name source imports s)]
      (e.precompile name source imports s).2.scripts := by
  have hp := e.precompile_precompiling name source imports s
  refine .single ?_ fun n => ?_
  · show Submission.Fits (ScriptEvent.standing (key name) past) _
    rw [← h name]
    exact hp.fits
  · rw [ScriptEvent.standing_concat, ← h n]
    exact hp.standing n

theorem continues_eviction (name : Option String) (h : s.scripts.Agrees past) :
    Continues past [.eviction name] (s.clearScripts name).2.scripts := by
  refine .single trivial fun n => ?_
  rw [ScriptEvent.standing_concat, ← h n]
  change Script.Shelf.standing (s.scripts.clear name).2 n = _
  rw [Script.Shelf.standing, Script.Shelf.find?_clear]
  cases name with
  | none => rfl
  | some name =>
    by_cases hk : key name = key n <;> simp [ScriptEvent.effect?, hk, Script.Shelf.standing]

theorem continues_invocation (name : String) (context : Json) (limit : Nat)
    (h : s.scripts.Agrees past) :
    Continues past [.invocation (e.invocation name context limit s)]
      (e.run name context limit s).2.scripts := by
  obtain ⟨hr, hs⟩ := e.run_running name context limit s
  refine .single ?_ fun n => ?_
  · show Invocation.Fits (ScriptEvent.standing (key name) past) _
    rw [← h name, invocation, hs]
    exact hr.fits
  · rw [hs, ScriptEvent.standing_concat, ← h n]
    rfl

theorem continues_submissions (imports : List String) (summary : BatchSummary)
    (paths : List Path) (h : s.scripts.Agrees past) :
    Continues past (e.submissions imports paths s)
      (e.precompileFiles imports summary paths s).2.scripts := by
  induction paths generalizing past s summary with
  | nil => exact .nil h
  | cons p rest ih =>
    unfold submissions precompileFiles
    cases p.stem? with
    | none => exact ih _ h
    | some name =>
      cases e.readScript p s.files with
      | error err => exact ih _ h
      | ok source =>
        have hp := e.continues_submission name source imports h
        have hr : ∀ summary, _ := fun summary => hp.append (ih summary hp.agrees)
        dsimp only
        generalize e.precompile name source imports s = r at hr ⊢
        obtain ⟨r, s'⟩ := r
        cases r <;> exact hr _

theorem precompileDir_snd (dir : Path) (imports : List String) (s : EngineState φ σ ρ) :
    (e.precompileDir dir imports s).2 =
      match e.store.isDir dir s.files with
      | true => (e.precompileFiles imports ⟨0, 0, 0⟩ (e.scriptFiles dir s.files) s).2
      | false => { s with files := (e.store.makeDir dir s.files).2 } := by
  unfold precompileDir scriptFiles
  cases e.store.isDir dir s.files with
  | true => cases e.store.list dir scriptExtension true s.files <;> rfl
  | false =>
    rcases e.store.makeDir dir s.files with ⟨r, files⟩
    cases r <;> rfl

theorem scriptFiles_of_not_isDir {dir : Path} {files : φ} (h : e.store.isDir dir files = false) :
    e.scriptFiles dir files = [] :=
  if_neg (Bool.eq_false_iff.1 h)

theorem continues_precompileDir (dir : Path) (imports : List String) (h : s.scripts.Agrees past) :
    Continues past (e.submissions imports (e.scriptFiles dir s.files) s)
      (e.precompileDir dir imports s).2.scripts := by
  rw [precompileDir_snd]
  cases hd : e.store.isDir dir s.files with
  | true => exact e.continues_submissions imports ⟨0, 0, 0⟩ _ h
  | false =>
    rw [e.scriptFiles_of_not_isDir hd]
    exact .nil h

theorem continues_events (c : ScriptCall φ) (h : s.scripts.Agrees past) :
    Continues past (e.events s c) (e.perform s c).scripts := by
  cases c with
  | precompile name source imports => exact e.continues_submission name source imports h
  | recompile name source imports =>
    have he := continues_eviction (some name) h
    exact he.append (e.continues_submission name source imports he.agrees)
  | precompileDir dir imports => exact e.continues_precompileDir dir imports h
  | run name context limit => exact e.continues_invocation name context limit h
  | clear name => exact continues_eviction name h
  | change files => exact .nil h

theorem continues_history (calls : List (ScriptCall φ)) (h : s.scripts.Agrees past) :
    Continues past (e.history calls s) (calls.foldl e.perform s).scripts := by
  induction calls generalizing past s with
  | nil => exact .nil h
  | cons c rest ih =>
    have hc := e.continues_events c h
    exact hc.append (ih hc.agrees)

end Engine

/-- What passed to and from the compiler in an event. -/
def ScriptEvent.exchanges : ScriptEvent ρ → List (Exchange ρ)
  | .submission x => x.exchanges
  | .eviction _ => []
  | .invocation x => x.exchanges

/-- The state with exchanges from before. -/
def Traced.behind (xs : List (Exchange ρ)) (t : Traced σ ρ) : Traced σ ρ :=
  ⟨t.state, xs ++ t.exchanges⟩

theorem CompileService.traced_simulates_behind (service : CompileService σ ρ)
    (xs : List (Exchange ρ)) : service.traced.Simulates service.traced (Traced.behind xs) where
  parse _ _ _ := by simp [traced, Traced.step, Traced.behind]
  emit _ _ := by simp [traced, Traced.step, Traced.behind]
  compileScript _ _ := by simp [traced, Traced.step, Traced.behind]
  run _ _ _ := by simp [traced, Traced.step, Traced.behind]

/-- A state is one in which noting starts, behind the exchanges so far. -/
theorem EngineState.map_behind (t : EngineState φ (Traced σ ρ) ρ) :
    (t.map Traced.state).traceStart.map (Traced.behind t.service.exchanges) = t := by
  obtain ⟨files, ⟨state, exchanges⟩, references, phases, scripts⟩ := t
  simp [EngineState.map, EngineState.traceStart, Traced.start, Traced.behind]

namespace Engine

variable (e : Engine φ σ ρ) (t : EngineState φ (Traced σ ρ) ρ)

theorem precompile_map_state (name source : String) (imports : List String) :
    e.precompile name source imports (t.map Traced.state) =
      Prod.map id (EngineState.map Traced.state) (e.traced.precompile name source imports t) :=
  precompile_simulates (e := e.traced) e.service.traced_simulates name source imports t

theorem precompile_exchanges (name source : String) (imports : List String) :
    (e.traced.precompile name source imports t).2.service.exchanges =
      t.service.exchanges ++ e.precompileExchanges name source imports (t.map Traced.state) := by
  have hs := precompile_simulates (e := e.traced)
    (e.service.traced_simulates_behind t.service.exchanges) name source imports
    (t.map Traced.state).traceStart
  rw [t.map_behind] at hs
  exact congrArg (fun r => r.2.service.exchanges) hs

theorem run_exchanges (name : String) (context : Json) (limit : Nat) :
    (e.traced.run name context limit t).2.service.exchanges =
      t.service.exchanges ++ e.runExchanges name context limit (t.map Traced.state) := by
  have hs := run_simulates (e := e.traced)
    (e.service.traced_simulates_behind t.service.exchanges) name context limit
    (t.map Traced.state).traceStart
  rw [t.map_behind] at hs
  exact congrArg (fun r => r.2.service.exchanges) hs

theorem precompileFiles_exchanges (imports : List String) (summary : BatchSummary)
    (paths : List Path) :
    (e.traced.precompileFiles imports summary paths t).2.service.exchanges =
        t.service.exchanges ++ (e.submissions imports paths (t.map Traced.state)).flatMap
          ScriptEvent.exchanges ∧
      (e.precompileFiles imports summary paths (t.map Traced.state)).2 =
        (e.traced.precompileFiles imports summary paths t).2.map Traced.state := by
  induction paths generalizing summary t with
  | nil => exact ⟨(List.append_nil _).symm, rfl⟩
  | cons p rest ih =>
    unfold submissions precompileFiles
    have hsrc : e.traced.readScript p t.files = e.readScript p (t.map Traced.state).files := rfl
    rw [hsrc]
    cases p.stem? with
    | none => exact ih _ _
    | some name =>
      cases e.readScript p (t.map Traced.state).files with
      | error err => exact ih _ _
      | ok source =>
        have hx := e.precompile_exchanges t name source imports
        have hm := e.precompile_map_state t name source imports
        have hr := fun summary => ih (e.traced.precompile name source imports t).2 summary
        dsimp only
        rw [List.flatMap_cons, ← List.append_assoc]
        change _ = t.service.exchanges ++
          e.precompileExchanges name source imports (t.map Traced.state) ++ _ ∧ _
        rw [← hx, hm]
        generalize e.traced.precompile name source imports t = r at hr ⊢
        obtain ⟨r, t'⟩ := r
        cases r <;> exact hr _

/-- What passes to and from the compiler in a call is what passes in its events, and noting it
changes nothing. -/
theorem perform_exchanges (c : ScriptCall φ) :
    (e.traced.perform t c).service.exchanges =
        t.service.exchanges ++ (e.events (t.map Traced.state) c).flatMap ScriptEvent.exchanges ∧
      e.perform (t.map Traced.state) c = (e.traced.perform t c).map Traced.state := by
  cases c with
  | precompile name source imports =>
    have hx := e.precompile_exchanges t name source imports
    have hm := e.precompile_map_state t name source imports
    exact ⟨hx.trans (congrArg _ (List.append_nil _).symm), congrArg Prod.snd hm⟩
  | recompile name source imports =>
    have hx := e.precompile_exchanges { t with scripts := t.scripts.erase name } name source imports
    have hm := e.precompile_map_state { t with scripts := t.scripts.erase name } name source imports
    exact ⟨hx.trans (congrArg _ (List.append_nil _).symm), congrArg Prod.snd hm⟩
  | precompileDir dir imports =>
    have hf := e.precompileFiles_exchanges t imports ⟨0, 0, 0⟩ (e.scriptFiles dir t.files)
    have ht := e.traced.precompileDir_snd dir imports t
    have hs := e.precompileDir_snd dir imports (t.map Traced.state)
    change (e.traced.precompileDir dir imports t).2.service.exchanges = _ ++ (e.submissions imports
        (e.scriptFiles dir t.files) (t.map Traced.state)).flatMap ScriptEvent.exchanges ∧
      (e.precompileDir dir imports (t.map Traced.state)).2 =
        (e.traced.precompileDir dir imports t).2.map Traced.state
    rw [ht, hs]
    cases hd : e.store.isDir dir t.files with
    | true =>
      simp only [traced_store, EngineState.map_files, hd]
      exact hf
    | false =>
      simp only [traced_store, EngineState.map_files, hd, e.scriptFiles_of_not_isDir hd]
      exact ⟨(List.append_nil _).symm, rfl⟩
  | run name context limit =>
    have hx := e.run_exchanges t name context limit
    have hm := run_simulates (e := e.traced) e.service.traced_simulates name context limit t
    exact ⟨hx.trans (congrArg _ (List.append_nil _).symm), congrArg Prod.snd hm⟩
  | clear name => exact ⟨(List.append_nil _).symm, rfl⟩
  | change files => exact ⟨(List.append_nil _).symm, rfl⟩

/-- All that passes to and from the compiler in calls that are made one after the other is in their
history. -/
theorem history_exchanges (calls : List (ScriptCall φ)) :
    (calls.foldl e.traced.perform t).service.exchanges =
      t.service.exchanges ++
        (e.history calls (t.map Traced.state)).flatMap ScriptEvent.exchanges := by
  induction calls generalizing t with
  | nil => exact (List.append_nil _).symm
  | cons c rest ih =>
    obtain ⟨hx, hs⟩ := e.perform_exchanges t c
    rw [history, hs, List.flatMap_append, ← List.append_assoc, ← hx]
    exact ih _

end Engine
end PluginForge
