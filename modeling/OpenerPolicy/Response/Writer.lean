/-
  File:      OpenerPolicy/Response/Writer.lean
  Subject:   THE RESPONSE UNDER CONSTRUCTION, AND WHAT CAN BE DONE TO IT.

  While a request is answered, its interceptors share one writer: headers, a status and a body. A
  response is written once; a status makes it so, and a body written without a status can still be
  replaced. What is done through the writer's interface is one of six operations, and one that fails
  changes nothing.

  * `Writer.write` -- writes body and status, unless a status was written before;
  * `Operation`, `Writer.perform` -- the operations and their effect.
-/
import OpenerPolicy.Fault

namespace OpenerPolicy

/-- A response under construction. -/
structure Writer where
  header : Header := {}
  /-- The setters that interceptors hold, in the order of their claims. -/
  setters : List Setter := []
  status : Option Int := none
  body : List UInt8 := []
  deriving DecidableEq, Repr

/-- What an interceptor can do to the response. -/
inductive Operation where
  | claim (name : String)
  /-- Calls the setter that was handed out as the one with this number, from zero. -/
  | assign (index : Nat) (values : List String)
  | set (name value : String)
  | add (name value : String)
  | delete (name : String)
  | write (body : List UInt8) (status : Option Int)
  deriving DecidableEq, Repr

namespace Writer

def written (w : Writer) : Bool := w.status.isSome

/-- **Writes body and status.** -/
def write (w : Writer) (body : List UInt8) (status : Option Int) : Except Fault Writer :=
  match w.status with
  | some earlier => .error (.alreadyWritten earlier)
  | none => .ok { w with body, status }

/-- The writer with changed headers, or the fault of the change. -/
def withHeader (w : Writer) (change : Except HeaderFault Header) : Except Fault Writer :=
  (change.mapError .header).map fun header => { w with header }

/-- **The effect of an operation.** A setter that was never handed out does nothing. -/
def perform (w : Writer) : Operation → Except Fault Writer
  | .claim name =>
    ((w.header.claim name).mapError .header).map fun (header, s) =>
      { w with header, setters := w.setters ++ [s] }
  | .assign index values =>
    .ok (match w.setters[index]? with
      | some s => { w with header := w.header.assign s values }
      | none => w)
  | .set name value => w.withHeader (w.header.set name value)
  | .add name value => w.withHeader (w.header.add name value)
  | .delete name => w.withHeader (w.header.delete name)
  | .write body status => w.write body status

end Writer

end OpenerPolicy
