/-
  File:      OpenerPolicy/Http/Application.lean
  Subject:   AN APPLICATION WITH INTERCEPTORS, INSIDE OR AROUND IT.

  Inside an application the interceptors know the handler that will answer, and use its configs; a
  fault that leaves them is answered by the application and reported. Around an application they know
  no handler, and see the answer of the application even where a handler failed.

  * `Incoming` -- a request as it arrives; `Incoming.request` -- as interceptors see it;
  * `routed` -- the answer that the routes give;
  * `serveInside`, `serveOutside` -- the reply to a request in either arrangement.
-/
import OpenerPolicy.Http.Host
import OpenerPolicy.Http.Interception
import OpenerPolicy.Http.Router

namespace OpenerPolicy.Http

/-! ## 1. Requests -/

/-- A request as it arrives. -/
structure Incoming where
  method : String
  path : String
  lines : List (String × String)
  deriving DecidableEq, Repr

namespace Incoming

/-- **The request as interceptors see it.** -/
def request (r : Incoming) : Request := ⟨r.method, addressPath r.path, collapse r.lines⟩

/-- The host that stands for an application whose request names none. -/
def standardHost : String := "testserver"

/-- **The host that the request names**, in its first line under the very name `host`; or the
    standard one, also where that line names no host. -/
def host (r : Incoming) : String :=
  match r.lines.lookup "host" with
  | some host => if Host.isHost host then host else standardHost
  | none => standardHost

/-- The address of a path on the host. -/
def location (r : Incoming) (path : String) : String :=
  percentQuoted ("http://" ++ r.host ++ String.ofList (rooted (escapedPath path)))

end Incoming

/-! ## 2. The application itself -/

/-- A response that points to another address. -/
def redirection (address : String) : Response :=
  ⟨307, [("content-length", "0"), ("location", address)], []⟩

/-- The answer of a resolution. -/
def Resolution.answer (r : Incoming) : Resolution → Answer
  | .found route => ⟨route.endpoint.answer, [.handled route.pattern.text]⟩
  | .methodRefused route => ⟨Response.methodNotAllowed (Text.ordered route.allowed), []⟩
  | .redirected path => ⟨.ok (redirection (r.location path)), []⟩
  | .mounted answer => answer.answer r
  | .nothing => ⟨.ok .notFound, []⟩

/-- **The answer that the routes give.** -/
def routed (sites : List Site) (r : Incoming) : Answer :=
  match resolve sites r.method r.path with
  | .ok resolution => resolution.answer r
  | .error f => ⟨.error f, []⟩

/-! ## 3. Both arrangements -/

/-- What becomes of a request: a response unless a fault took its place, what happened, and the
    fault that is reported. -/
structure Reply where
  response : Option Response
  events : List (Event Response)
  raised : Option Fault

/-- A fault that the application answers and reports. -/
def Reply.ofFault (events : List (Event Response)) (f : Fault) : Reply :=
  ⟨some Response.serverError, events, some f⟩

/-- **Interceptors inside an application.** A pipeline that cannot be put together gives no response
    at all; any other fault is answered and reported. -/
def serveInside (components : List (Component Response)) (sites : List Site) (r : Incoming) : Reply :=
  match assemble components, configsFor r.method r.path sites with
  | .error f, _ => ⟨none, [], some (.binding f)⟩
  | _, .error f => .ofFault [] f
  | .ok interceptors, .ok configs =>
    let answer := intercept interceptors configs r.request (routed sites r)
    match answer.outcome with
    | .ok response => ⟨some response, answer.events, none⟩
    | .error f => .ofFault answer.events f

/-- The answer of an application that answers its own failures. -/
def answered (next : Answer) : Answer :=
  match next.outcome with
  | .ok _ => next
  | .error f => ⟨.ok Response.serverError, next.events ++ [.failed f]⟩

/-- **Interceptors around an application.** A handler's failure is answered before they see it, and
    reported all the same; a fault of their own leaves no response. -/
def serveOutside (interceptors : List (Interceptor Response)) (sites : List Site) (r : Incoming) :
    Reply :=
  let answer := intercept interceptors [] r.request (answered (routed sites r))
  match answer.outcome with
  | .ok response => ⟨some response, answer.events, answer.events.findSome? Event.failure?⟩
  | .error f => ⟨none, answer.events, some f⟩

end OpenerPolicy.Http
