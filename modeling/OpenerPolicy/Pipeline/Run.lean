/-
  File:      OpenerPolicy/Pipeline/Run.lean
  Subject:   RUNNING A PHASE OF A PIPELINE.

  The interceptors act one after the other on the same writer, each with its config, until one says
  that the response is written or one has a fault. What happened is kept as a trace of events.

  * `Event`, `Run` -- what happened, and how a run ended;
  * `runPhase` -- a phase of a pipeline.
-/
import OpenerPolicy.Pipeline.Binding

namespace OpenerPolicy

/-- What happens while a request is answered. -/
inductive Event (ρ : Type) where
  /-- The interceptor at a position was called in a phase, with its config and the response. -/
  | called (position : Nat) (phase : Phase) (config : Option Config) (reply : Option ρ)
  /-- The handler of the route with this path was called. -/
  | handled (route : String)
  /-- A failure was answered for the handler, and is reported all the same. -/
  | failed (f : Fault)
  | logged (n : Log.Notice)

def Event.notice? {ρ : Type} : Event ρ → Option Log.Notice
  | .logged n => some n
  | _ => none

def Event.failure? {ρ : Type} : Event ρ → Option Fault
  | .failed f => some f
  | _ => none

/-- How a phase ended: whether the response was written or which fault stopped it, the writer, and
    what happened. -/
structure Run (ρ : Type) where
  outcome : Except Fault Bool
  writer : Writer
  events : List (Event ρ)

variable {ρ : Type}

/-- The notice that an interceptor wrote the response before the handler was called. -/
def shortCircuitNotice (i : Interceptor ρ) (r : Request) : Log.Notice where
  level := Log.info
  message := .object
    [("event", .str "pipeline_short_circuited"),
     ("message", .str (i.typeName ++ " wrote the response for " ++ r.method ++ " " ++ r.path)),
     ("component", .str "dispatch"),
     ("details", .object [("interceptor", .str i.typeName), ("path", .str r.path)])]

/-- What is noted when an interceptor has written the response. -/
def stopEvents (phase : Phase) (i : Interceptor ρ) (r : Request) : List (Event ρ) :=
  match phase with
  | .before => [.logged (shortCircuitNotice i r)]
  | _ => []

/-- A phase from a position of the pipeline on. -/
def runFrom (phase : Phase) (request : Request) (reply : Option ρ) :
    (position : Nat) → List (Binding ρ) → Writer → Run ρ
  | _, [], w => ⟨.ok false, w, []⟩
  | position, b :: rest, w =>
    let call := Event.called position phase b.config reply
    match b.interceptor.act phase request reply b.config w with
    | (.ok false, w) =>
      let run := runFrom phase request reply (position + 1) rest w
      { run with events := call :: run.events }
    | (.ok true, w) => ⟨.ok true, w, call :: stopEvents phase b.interceptor request⟩
    | (.error f, w) => ⟨.error f, w, [call]⟩

/-- **A phase of a pipeline.** -/
def runPhase (phase : Phase) (bindings : List (Binding ρ)) (request : Request) (reply : Option ρ)
    (w : Writer) : Run ρ :=
  runFrom phase request reply 0 bindings w

end OpenerPolicy
