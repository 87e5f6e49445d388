/-
  File:      OpenerPolicy/Http/Interception.lean
  Subject:   INTERCEPTORS AROUND A HANDLER.

  The configs of the handler are bound first. Then the interceptors act before the handler; if one
  writes the response, the handler is not called. After the handler they commit its response, or act
  on its failure. Whichever response is sent, the headers of the writer are put onto it.

  * `Answer` -- a response or a fault, and what happened until then;
  * `intercept` -- the answer of a handler with interceptors around it;
  * `failureNotice` -- the notice that a handler failed.
-/
import OpenerPolicy.Http.Response
import OpenerPolicy.Pipeline.Run

namespace OpenerPolicy.Http

/-- A response or a fault, and what happened until then. -/
structure Answer where
  outcome : Except Fault Response
  events : List (Event Response)

/-- The notice that a handler failed. -/
def failureNotice (r : Request) (f : Fault) : Log.Notice where
  level := Log.warning
  message := .object
    [("event", .str "handler_failed"),
     ("message", .str ("Handler failed for " ++ r.method ++ " " ++ r.path ++ ": " ++ f.message)),
     ("component", .str "interceptor_middleware"),
     ("details", .object [("path", .str r.path), ("error_type", .str f.kind)])]

/-- **The response that is sent after a phase**: the one written, or else the one at hand; with the
    headers of the writer. A fault of the phase stands in for both. -/
def phaseAnswer (run : Run Response) (otherwise : Response) : Except Fault Response := do
  let written ← run.outcome
  (if written then Response.ofWriter run.writer else otherwise).apply run.writer.header

/-- What is left once the interceptors have acted before the handler: `next` is the handler. -/
def complete (bindings : List (Binding Response)) (r : Request) (w : Writer) (next : Answer) :
    Answer :=
  match next.outcome with
  | .ok response =>
    let run := runPhase .commit bindings r (some response) w
    ⟨phaseAnswer run response, next.events ++ run.events⟩
  | .error f =>
    let run := runPhase .onError bindings r none w
    ⟨phaseAnswer run Response.serverError, next.events ++ .logged (failureNotice r f) :: run.events⟩

/-- The answer of a pipeline whose configs are bound. -/
def interceptBound (bindings : List (Binding Response)) (r : Request) (next : Answer) : Answer :=
  let run := runPhase .before bindings r none {}
  match run.outcome with
  | .error f => ⟨.error f, run.events⟩
  | .ok true => ⟨(Response.ofWriter run.writer).apply run.writer.header, run.events⟩
  | .ok false =>
    let rest := complete bindings r run.writer next
    { rest with events := run.events ++ rest.events }

/-- **The answer of a handler with interceptors around it.** -/
def intercept (interceptors : List (Interceptor Response)) (candidates : List (Component Response))
    (r : Request) (next : Answer) : Answer :=
  let (bound, notices) := bindAll candidates interceptors
  let noted := notices.map Event.logged
  match bound with
  | .error f => ⟨.error (.binding f), noted⟩
  | .ok bindings =>
    let rest := interceptBound bindings r next
    { rest with events := noted ++ rest.events }

end OpenerPolicy.Http
