/-
  File:      OpenerPolicy/Pipeline/Program.lean
  Subject:   PROGRAMS OVER THE WRITER'S INTERFACE, AND INTERCEPTORS MADE OF THEM.

  A program looks at the writer, performs operations on it and chooses what to do next by how they
  went. Whatever an interceptor does through the writer's interface alone is such a program. Two kinds
  of interceptors are built in: one that follows a script, and one that owns a single header.

  * `Program`, `Program.run` -- programs, and their effect on a writer;
  * `Action`, `Program.ofActions` -- a script: actions one after the other, up to the first fault;
  * `Interceptor.scripted` -- follows a script in each phase;
  * `Interceptor.owner` -- claims one header and sets it.
-/
import OpenerPolicy.Pipeline.Interceptor

namespace OpenerPolicy

/-! ## 1. Programs -/

/-- What is done through the writer's interface. -/
inductive Program where
  /-- Says whether the response was written. -/
  | finish (written : Bool)
  | fail (f : Fault)
  | look (next : Writer → Program)
  /-- Performs an operation and goes on with its fault, if it has one. -/
  | perform (o : Operation) (next : Option Fault → Program)

namespace Program

/-- **The effect of a program.** -/
def run : Program → Callback
  | .finish written, w => (.ok written, w)
  | .fail f, w => (.error f, w)
  | .look next, w => (next w).run w
  | .perform o next, w =>
    match w.perform o with
    | .ok w' => (next none).run w'
    | .error f => (next (some f)).run w

/-- An operation whose fault is not caught. -/
def performing (o : Operation) (next : Program) : Program :=
  .perform o fun
    | none => next
    | some f => .fail f

/-- Claims a header and sets it by the setter. -/
def own (name : String) (values : List String) (next : Program) : Program :=
  performing (.claim name) (.look fun w => performing (.assign (w.setters.length - 1) values) next)

end Program

/-! ## 2. Scripts -/

/-- One action of a script. -/
inductive Action where
  /-- Claims a header and sets it. -/
  | own (name : String) (values : List String)
  | perform (o : Operation)
  /-- Ends the script at once. -/
  | finish (written : Bool)
  | fail (f : Fault)

/-- An action that is skipped unless a header of the request has a value. -/
structure Step where
  onlyIf : Option String
  action : Action

def Step.applies (s : Step) (r : Request) : Bool :=
  match s.onlyIf with
  | none => true
  | some name => ((r.header? name).getD "") ≠ ""

/-- **The program of a script.** Unless it is ended before, a script has written the response if it
    performed a write, or if that was the case before it. -/
def Program.ofActions (written : Bool) : List Action → Program
  | [] => .finish written
  | .own name values :: rest => .own name values (ofActions written rest)
  | .perform o :: rest =>
    let isWrite := match o with
      | .write _ _ => true
      | _ => false
    .performing o (ofActions (written || isWrite) rest)
  | .finish written :: _ => .finish written
  | .fail f :: _ => .fail f

namespace Interceptor

variable {ρ : Type}

/-- **An interceptor that follows a script** in each phase. -/
def scripted (typeName label : String) (script : Phase → List Step) : Interceptor ρ :=
  .foreign ⟨typeName, label, fun phase request _ _ =>
    (Program.ofActions false (((script phase).filter (·.applies request)).map Step.action)).run⟩

/-- **An interceptor that owns one header**: before the handler it claims it and sets it to its
    value, or to that of a config of the type named. -/
def owner (typeName configType label header value : String) : Interceptor ρ :=
  .foreign ⟨typeName, label, fun phase _ _ config =>
    match phase with
    | .before =>
      let value := match config with
        | some (.foreign t (.text (.whole v)) _) => if t = configType then v else value
        | _ => value
      (Program.own header [value] (.finish false)).run
    | _ => (Program.finish false).run⟩

end Interceptor

end OpenerPolicy
