/-
The exchange with a helper program: one request in, one response out. The response counts whatever
the exit status is; the status only says what went wrong where there is no response.
-/
import PluginForge.Compiler.Service
import PluginForge.Encoding.Source

namespace PluginForge

/-! ## Requests -/

inductive HelperRequest where
  | parse (source : SourceFile) (version : LanguageVersion)
  | emit (request : EmitRequest)
  | script (request : ScriptRequest)
  /-- Runs the script that the helper knows by `handle`. -/
  | invoke (script handle : String) (context : Json)

namespace HelperRequest

/-- The name of the operation that is asked for. -/
def op : HelperRequest → String
  | .parse .. => "parse"
  | .emit _ => "emit"
  | .script _ => "script"
  | .invoke .. => "invoke"

def toJson (r : HelperRequest) : Json :=
  .obj (("op", .str r.op) :: match r with
    | .parse source version =>
      [("source", source.toJson), ("languageVersion", version.toJson)]
    | .emit request => [("request", request.toJson)]
    | .script request => [("request", request.toJson)]
    | .invoke name handle context =>
      [("script", .str name), ("handle", .str handle), ("context", context)])

end HelperRequest

/-! ## How a helper ends -/

inductive ExitStatus where
  | code (n : Nat)
  | signal (n : Nat)
deriving DecidableEq, Repr

namespace ExitStatus

def success (s : ExitStatus) : Bool :=
  s = .code 0

/-- The names of the signals from number one on. -/
def signalNames : List String := [
  "SIGHUP", "SIGINT", "SIGQUIT", "SIGILL", "SIGTRAP", "SIGABRT", "SIGBUS", "SIGFPE", "SIGKILL",
  "SIGUSR1", "SIGSEGV", "SIGUSR2", "SIGPIPE", "SIGALRM", "SIGTERM", "SIGSTKFLT", "SIGCHLD",
  "SIGCONT", "SIGSTOP", "SIGTSTP", "SIGTTIN", "SIGTTOU", "SIGURG", "SIGXCPU", "SIGXFSZ",
  "SIGVTALRM", "SIGPROF", "SIGWINCH", "SIGIO", "SIGPWR", "SIGSYS"]

def message : ExitStatus → String
  | .code n => "exit status: " ++ toString n
  | .signal n =>
    "signal: " ++ toString n ++
      match if n = 0 then none else signalNames[n - 1]? with
      | some name => " (" ++ name ++ ")"
      | none => ""

end ExitStatus

/-- What a helper leaves behind. -/
structure HelperReply where
  stdout : Bytes
  stderr : Bytes
  status : ExitStatus

/-- The run of a helper, if it could be started. -/
inductive HelperRun where
  | reply (r : HelperReply)
  | notStarted (detail : String)

/-! ## Responses -/

structure HelperFailure where
  message : String
  kind : Option String

open Json.Draft in
def HelperFailure.ofDraft? (d : Json.Draft) : Option HelperFailure :=
  match record? ["message", "kind"] d with
  | some [message, kind] => do
    return {
      message := ← required string? message
      kind := ← optional (option? string?) none kind }
  | _ => none

structure HelperResponse where
  ok : Bool
  payload : Json
  error : Option HelperFailure

namespace HelperResponse

open Json.Draft in
def ofDraft? (d : Json.Draft) : Option HelperResponse :=
  match record? ["ok", "payload", "error"] d with
  | some [ok, payload, error] => do
    return {
      ok := ← required bool? ok
      payload := ← optional toJson? .null payload
      error := ← optional (option? HelperFailure.ofDraft?) none error }
  | _ => none

/-- The response that a helper wrote. -/
def read? (stdout : Bytes) : Option HelperResponse :=
  (Json.Draft.read? (Encoding.jsonText stdout)).bind ofDraft?

/-- The kind of failure by which a helper says that it has no memory left. -/
def outOfMemoryKind : String := "out_of_memory"

/-- The failure that a response reports. -/
def failure (r : HelperResponse) : ServiceError :=
  let f := r.error.getD ⟨"helper reported failure without a message", none⟩
  if f.kind = some outOfMemoryKind then .outOfMemory f.message else .rejected f.message

end HelperResponse

namespace HelperReply

/-- What a helper answers, where `decode?` reads the payload. -/
def decode {α : Type} (decode? : Json.Draft → Option α) (r : HelperReply) : Except ServiceError α :=
  match HelperResponse.read? r.stdout with
  | none =>
    if r.status.success then .error (.protocol "unreadable response")
    else
      .error (.transport ("helper exited with " ++ r.status.message ++ ": " ++
        Text.trim (Encoding.lossyUtf8 r.stderr)))
  | some response =>
    if response.ok then
      match decode? (.ofJson response.payload) with
      | some a => .ok a
      | none => .error (.protocol "unreadable payload")
    else .error response.failure

end HelperReply

/-- What a helper that was to be run answers. -/
def HelperRun.decode {α : Type} (decode? : Json.Draft → Option α) :
    HelperRun → Except ServiceError α
  | .reply r => r.decode decode?
  | .notStarted detail => .error (.transport ("cannot start " ++ detail))

end PluginForge
