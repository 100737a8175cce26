/-
What the answer of a helper is, whatever it writes and however it exits. A document is a response
if it is a record with a flag, which must be there, and perhaps a payload and an error
(`IsResponse`); the reader finds just these. Where a helper writes a response, the answer depends
on nothing else: not on the exit status and not on what it writes besides. The exit status counts
only where there is none.
-/
import Mathlib.Data.List.Forall2
import PluginForge.Compiler.Helper

namespace PluginForge

/-! ## Records in documents -/

namespace Json.Draft

/-- The members of a record in the order of `names`, or none where there is no member of the name.
An object has names that can be used, and no member twice; an array has the members in their order,
and the last ones may be missing. -/
inductive HasMembers (names : List String) : Draft → List (Option Draft) → Prop
  | object {members values} (named : ∀ m ∈ members, m.1 ≠ none)
      (each : List.Forall₂ (fun name (value : Option Draft) =>
        membersNamed name members = value.toList) names values) :
      HasMembers names (.obj members) values
  | array {items missing} (fits : items.length + missing = names.length) :
      HasMembers names (.arr items) (items.map some ++ List.replicate missing none)

theorem member?_eq_some_iff {members : List (Option String × Draft)} {name : String}
    {value : Option Draft} :
    member? members name = some value ↔ membersNamed name members = value.toList := by
  unfold member?
  split
  case h_1 none => cases value <;> simp [none]
  case h_2 d one => cases value <;> simp [one]
  case h_3 several single =>
    refine iff_of_false nofun fun h => ?_
    cases value with
    | none => exact several h
    | some d => exact single d h

theorem mapM_eq_some_iff {α β : Type} {f : α → Option β} {as : List α} {bs : List β} :
    as.mapM f = some bs ↔ List.Forall₂ (fun a b => f a = some b) as bs := by
  induction as generalizing bs with
  | nil => simp [eq_comm]
  | cons a as ih =>
    rw [List.mapM_cons]
    cases bs with
    | nil =>
      refine iff_of_false (fun h => ?_) nofun
      obtain ⟨b, -, h⟩ := Option.bind_eq_some_iff.1 h
      obtain ⟨bs, -, h⟩ := Option.bind_eq_some_iff.1 h
      cases h
    | cons b bs => simp [Option.bind_eq_some_iff, ih]

theorem record?_eq_some_iff {names : List String} {d : Draft} {values : List (Option Draft)} :
    record? names d = some values ↔ HasMembers names d values := by
  have each {members : List (Option String × Draft)} {values : List (Option Draft)} :
      names.mapM (member? members) = some values ↔ List.Forall₂ (fun name (value : Option Draft) =>
        membersNamed name members = value.toList) names values := by
    simp only [mapM_eq_some_iff, member?_eq_some_iff]
  constructor
  · intro h
    cases d with
    | obj members =>
      obtain ⟨named, h⟩ := Option.ite_none_right_eq_some.1 h
      refine .object (fun m hm absent => ?_) (each.1 h)
      have present := List.all_eq_true.1 named m hm
      rw [absent] at present
      cases present
    | arr items =>
      obtain ⟨few, h⟩ := Option.ite_none_right_eq_some.1 h
      cases h
      exact .array (Nat.add_sub_cancel' few)
    | _ => cases h
  · rintro (⟨named, h⟩ | ⟨fits⟩)
    · refine (if_pos (List.all_eq_true.2 fun m hm => ?_)).trans (each.2 h)
      exact Option.isSome_iff_ne_none.2 (named m hm)
    · rename_i items missing
      have rest : names.length - items.length = missing := by omega
      rw [record?, if_pos (by omega), rest]

/-- A member that may be missing or null, with its value where it has one. -/
inductive Possibly {α : Type} (IsValue : Draft → α → Prop) : Option Draft → Option α → Prop
  | missing : Possibly IsValue none none
  | null : Possibly IsValue (some .null) none
  | given {d a} (h : IsValue d a) : Possibly IsValue (some d) (some a)

theorem option?_of_ne_null {α : Type} {f : Draft → Option α} {d : Draft} (h : d ≠ .null) :
    option? f d = (f d).map some := by
  cases d <;> first | rfl | exact absurd rfl h

theorem optional_option?_eq_some_iff {α : Type} {f : Draft → Option α} {IsValue : Draft → α → Prop}
    (reads : ∀ d a, f d = some a ↔ IsValue d a) (null : f .null = none) {d : Option Draft}
    {a : Option α} : optional (option? f) none d = some a ↔ Possibly IsValue d a := by
  constructor
  · intro h
    cases d with
    | none =>
      cases h
      exact .missing
    | some d =>
      change option? f d = some a at h
      by_cases absent : d = .null
      · subst absent
        cases h
        exact .null
      · rw [option?_of_ne_null absent] at h
        obtain ⟨b, hb, rfl⟩ := Option.map_eq_some_iff.1 h
        exact .given ((reads d b).1 hb)
  · rintro (_ | _ | @⟨d, a, h⟩)
    · rfl
    · rfl
    · have value := (reads d a).2 h
      have there : d ≠ .null := by
        rintro rfl
        rw [null] at value
        cases value
      change option? f d = some (some a)
      rw [option?_of_ne_null there, value, Option.map_some]

theorem string?_eq_some_iff {d : Draft} {s : String} : string? d = some s ↔ d = .str s := by
  cases d <;> simp [string?]

theorem bool?_eq_some_iff {d : Draft} {b : Bool} : bool? d = some b ↔ d = .bool b := by
  cases d <;> simp [bool?]

theorem required_eq_some_iff {α : Type} {f : Draft → Option α} {g : α → Draft}
    (reads : ∀ d a, f d = some a ↔ d = g a) {d : Option Draft} {a : α} :
    required f d = some a ↔ d = some (g a) := by
  cases d with
  | none => exact iff_of_false nofun nofun
  | some d => exact (reads d a).trans Option.some_inj.symm

/-! ## Responses -/

/-- A document tells of a failure: by its message and perhaps a kind. -/
def IsFailure (d : Draft) (f : HelperFailure) : Prop :=
  ∃ kind, HasMembers ["message", "kind"] d [some (.str f.message), kind] ∧
    Possibly (fun d k => d = .str k) kind f.kind

/-- A payload that is missing is null; otherwise all of it must be usable. -/
inductive IsPayload : Option Draft → Json → Prop
  | missing : IsPayload none .null
  | given {d j} (usable : d.toJson? = some j) : IsPayload (some d) j

/-- A document is a response: a flag, and perhaps a payload and an error. -/
def IsResponse (d : Draft) (response : HelperResponse) : Prop :=
  ∃ payload error,
    HasMembers ["ok", "payload", "error"] d [some (.bool response.ok), payload, error] ∧
      IsPayload payload response.payload ∧ Possibly IsFailure error response.error

theorem optional_toJson?_eq_some_iff {d : Option Draft} {j : Json} :
    optional toJson? .null d = some j ↔ IsPayload d j := by
  constructor
  · intro h
    cases d with
    | none =>
      cases h
      exact .missing
    | some d => exact .given h
  · rintro (_ | usable)
    · rfl
    · exact usable

end Json.Draft

open Json.Draft

theorem HelperFailure.ofDraft?_eq_some_iff {d : Json.Draft} {f : HelperFailure} :
    ofDraft? d = some f ↔ d.IsFailure f := by
  unfold ofDraft? IsFailure
  constructor
  · intro h
    split at h
    · rename_i message kind members
      simp only [Option.pure_def, Option.bind_eq_bind, Option.bind_eq_some_iff,
        Option.some.injEq] at h
      obtain ⟨text, given, k, read, rfl⟩ := h
      obtain rfl := (required_eq_some_iff fun _ _ => string?_eq_some_iff).1 given
      exact ⟨kind, record?_eq_some_iff.1 members,
        (optional_option?_eq_some_iff (fun _ _ => string?_eq_some_iff) rfl).1 read⟩
    · cases h
  · rintro ⟨kind, members, read⟩
    rw [record?_eq_some_iff.2 members]
    have read := (optional_option?_eq_some_iff (fun _ _ => string?_eq_some_iff) rfl).2 read
    simp [required, string?, read]

theorem HelperResponse.ofDraft?_eq_some_iff {d : Json.Draft} {response : HelperResponse} :
    ofDraft? d = some response ↔ d.IsResponse response := by
  have failure {error : Option Json.Draft} {f : Option HelperFailure} :=
    @optional_option?_eq_some_iff _ HelperFailure.ofDraft? Json.Draft.IsFailure
      (fun _ _ => HelperFailure.ofDraft?_eq_some_iff) rfl error f
  unfold ofDraft? IsResponse
  constructor
  · intro h
    split at h
    · rename_i ok payload error members
      simp only [Option.pure_def, Option.bind_eq_bind, Option.bind_eq_some_iff,
        Option.some.injEq] at h
      obtain ⟨flag, given, j, usable, f, read, rfl⟩ := h
      obtain rfl := (required_eq_some_iff fun _ _ => bool?_eq_some_iff).1 given
      exact ⟨payload, error, record?_eq_some_iff.1 members,
        optional_toJson?_eq_some_iff.1 usable, failure.1 read⟩
    · cases h
  · rintro ⟨payload, error, members, usable, read⟩
    rw [record?_eq_some_iff.2 members]
    simp [required, bool?, optional_toJson?_eq_some_iff.2 usable, failure.2 read]

/-- What a helper writes is this response. -/
def HelperReply.Responds (r : HelperReply) (response : HelperResponse) : Prop :=
  ∃ d, Json.Draft.read? (Encoding.jsonText r.stdout) = some d ∧ d.IsResponse response

/-- A response that tells that the helper has no memory left. -/
def HelperResponse.IsOutOfMemory (response : HelperResponse) : Prop :=
  response.ok = false ∧ ∃ f, response.error = some f ∧ f.kind = some "out_of_memory"

namespace HelperReply

variable {α : Type} {decode? : Json.Draft → Option α} {r : HelperReply}
  {response response' : HelperResponse}

theorem read?_eq_some_iff :
    HelperResponse.read? r.stdout = some response ↔ r.Responds response := by
  unfold HelperResponse.read? Responds
  rw [Option.bind_eq_some_iff]
  simp only [HelperResponse.ofDraft?_eq_some_iff]

/-- Nothing that is written is two responses. -/
theorem Responds.unique (h : r.Responds response) (h' : r.Responds response') :
    response = response' :=
  Option.some.inj ((read?_eq_some_iff.2 h).symm.trans (read?_eq_some_iff.2 h'))

end HelperReply

/-! ## Answers -/

/-- The answer of a helper, by the response that it writes; by its exit status only if it writes
none. -/
structure HelperReply.Classifies {α : Type} (r : HelperReply) (decode? : Json.Draft → Option α)
    (result : Except ServiceError α) : Prop where
  answer : ∀ a, result = .ok a ↔
    ∃ response, r.Responds response ∧ response.ok = true ∧
      decode? (.ofJson response.payload) = some a
  outOfMemory : (∃ detail, result = .error (.outOfMemory detail)) ↔
    ∃ response, r.Responds response ∧ response.IsOutOfMemory
  rejected : (∃ detail, result = .error (.rejected detail)) ↔
    ∃ response, r.Responds response ∧ response.ok = false ∧ ¬ response.IsOutOfMemory
  protocol : (∃ detail, result = .error (.protocol detail)) ↔
    (∃ response, r.Responds response ∧ response.ok = true ∧
      decode? (.ofJson response.payload) = none) ∨
    (∀ response, ¬ r.Responds response) ∧ r.status = .code 0
  transport : (∃ detail, result = .error (.transport detail)) ↔
    (∀ response, ¬ r.Responds response) ∧ r.status ≠ .code 0
  notCrashed : ∀ detail, result ≠ .error (.crashed detail)

namespace HelperReply

variable {α : Type} (decode? : Json.Draft → Option α) {r : HelperReply}
  {response : HelperResponse}

/-- A response that is no success reports that there is no memory left, or that the request was
rejected. -/
theorem failure_cases (failed : response.ok = false) :
    (response.IsOutOfMemory ∧ ∃ detail, response.failure = .outOfMemory detail) ∨
      ¬ response.IsOutOfMemory ∧ ∃ detail, response.failure = .rejected detail := by
  unfold HelperResponse.failure HelperResponse.IsOutOfMemory
  cases told : response.error with
  | none =>
    refine .inr ⟨?_, _, rfl⟩
    rintro ⟨-, _, same, -⟩
    cases same
  | some f =>
    by_cases kind : f.kind = some "out_of_memory"
    · exact .inl ⟨⟨failed, f, rfl, kind⟩, f.message, if_pos kind⟩
    · refine .inr ⟨?_, f.message, if_neg kind⟩
      rintro ⟨-, _, same, full⟩
      cases same
      exact kind full

theorem classifies_of_responds (h : r.Responds response) :
    r.Classifies decode? (r.decode decode?) := by
  -- There is no other response, so what is true of one is true of this one.
  have only (P : HelperResponse → Prop) :
      (∃ response, r.Responds response ∧ P response) ↔ P response :=
    ⟨fun ⟨_, own, hp⟩ => own.unique h ▸ hp, fun hp => ⟨response, h, hp⟩⟩
  have spoken : ¬ ∀ response, ¬ r.Responds response := fun silent => silent response h
  unfold decode
  simp only [read?_eq_some_iff.2 h]
  cases ok : response.ok with
  | true =>
    have other : ¬ response.IsOutOfMemory := fun h => nomatch ok.symm.trans h.1
    cases payload : decode? (.ofJson response.payload) with
    | some a => constructor <;> simp [only, spoken, ok, payload, other]
    | none => constructor <;> simp [only, spoken, ok, payload, other]
  | false =>
    rcases failure_cases ok with ⟨full, detail, failure⟩ | ⟨other, detail, failure⟩
    · constructor <;> simp [only, spoken, ok, full, failure]
    · constructor <;> simp [only, spoken, ok, other, failure]

theorem classifies_of_silent (silent : ∀ response, ¬ r.Responds response) :
    r.Classifies decode? (r.decode decode?) := by
  have read : HelperResponse.read? r.stdout = none :=
    Option.eq_none_iff_forall_ne_some.2 fun response read =>
      silent response (read?_eq_some_iff.1 read)
  unfold decode
  simp only [read, ExitStatus.success, decide_eq_true_iff]
  by_cases success : r.status = .code 0
  · constructor <;> simp [silent, success]
  · constructor <;> simp [silent, success]

theorem decode_classifies (r : HelperReply) : r.Classifies decode? (r.decode decode?) := by
  by_cases h : ∃ response, r.Responds response
  · obtain ⟨response, h⟩ := h
    exact classifies_of_responds decode? h
  · exact classifies_of_silent decode? (not_exists.1 h)

end HelperReply

/-- A build that a payload tells of has code just if the script compiled. -/
theorem ScriptPayload.code_of_build {name : String} {p : ScriptPayload}
    {b : ScriptBuild HelperScript} (h : p.build name = .ok b) :
    b.code.isSome = true ↔ b.success = true := by
  unfold build at h
  split at h
  · cases h
    exact iff_of_true rfl rfl
  · cases h
  · cases h
    exact iff_of_false nofun nofun

namespace Helper

variable {σ α : Type}

theorem answer_of_outcome {r : Except ServiceError α} {a : α} (h : outcome r = .answer a) :
    r = .ok a := by
  cases r with
  | ok b => exact congrArg Except.ok (Outcome.answer.inj h)
  | error err => cases h

theorem code_of_compileScript {helper : Helper σ} {request : ScriptRequest} {s : σ}
    {build : ScriptBuild HelperScript}
    (h : (helper.service.compileScript request s).1 = .answer build) :
    build.code.isSome = true ↔ build.success = true := by
  have built : (helper.ask ScriptPayload.ofDraft? (.script request) s).1.bind
      (ScriptPayload.build request.name) = .ok build := answer_of_outcome h
  cases payload : (helper.ask ScriptPayload.ofDraft? (.script request) s).1 with
  | error err =>
    rw [payload] at built
    cases built
  | ok p =>
    rw [payload] at built
    exact ScriptPayload.code_of_build built

/-- However a helper exits and whatever it writes, its answer is told by the response that it
writes, and by its exit status only if it writes none. So no script is built that has code and did
not compile, or that compiled and has no code. -/
theorem ask_classifies (helper : Helper σ) (decode? : Json.Draft → Option α)
    (request : HelperRequest) {s s' : σ} {r : HelperReply}
    (replies : helper request s = (.reply r, s')) :
    r.Classifies decode? (helper.ask decode? request s).1 ∧
      ∀ (request : ScriptRequest) (s : σ) build,
        (helper.service.compileScript request s).1 = .answer build →
          (build.code.isSome = true ↔ build.success = true) := by
  refine ⟨?_, fun _ _ _ => code_of_compileScript⟩
  unfold ask
  rw [replies]
  exact r.decode_classifies decode?

/-- An answer, from a helper that then exits with a status that is no success. -/
def lateFailure : HelperReply where
  stdout := Encoding.toUtf8 "\x7b\"ok\":true,\"payload\":\"done\"\x7d"
  stderr := Encoding.toUtf8 "trace"
  status := .code 3

theorem ask_classifies_late_failure :
    (Helper.ask (fun _ s => (.reply lateFailure, s)) Json.Draft.string?
      (.invoke "greet" "h1" .null) ()).1 = .ok "done" := by
  obtain ⟨classifies, -⟩ := ask_classifies (fun _ s => (.reply lateFailure, s)) Json.Draft.string?
    (.invoke "greet" "h1" .null) (Eq.refl (HelperRun.reply lateFailure, ()))
  have read : (HelperResponse.read? lateFailure.stdout).map
      (fun response => (response.ok, Json.Draft.string? (.ofJson response.payload))) =
        some (true, some "done") := by
    decide +kernel
  obtain ⟨response, read, told⟩ := Option.map_eq_some_iff.1 read
  obtain ⟨ok, payload⟩ := Prod.mk.inj told
  exact (classifies.answer "done").2 ⟨response, HelperReply.read?_eq_some_iff.1 read, ok, payload⟩

end Helper
end PluginForge
