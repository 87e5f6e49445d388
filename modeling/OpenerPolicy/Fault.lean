/-
  File:      OpenerPolicy/Fault.lean
  Subject:   WHAT CAN GO WRONG WHILE A REQUEST IS ANSWERED.

  A fault is a broken rule of header ownership, a second written response, a pipeline put together
  wrongly, a header that cannot be sent, a number in a path that is too long, or something raised by a
  handler or a foreign interceptor.

  * `BindingFault` -- a pipeline or the configs of a handler are put together wrongly;
  * `Fault`, `Fault.kind`, `Fault.message` -- all faults, the name of their kind, and their text.
-/
import OpenerPolicy.Response.Header
import OpenerPolicy.Text.Encoding
import OpenerPolicy.Value

namespace OpenerPolicy

/-- Why interceptors and configs do not fit together. Objects are known by the names of their
    types. -/
inductive BindingFault where
  | notAnInterceptor (typeName : String)
  | notAConfig (typeName : String)
  /-- Two configs are meant for one interceptor. -/
  | ambiguous (interceptor first second : String)
  deriving DecidableEq, Repr

namespace BindingFault

def message : BindingFault → String
  | .notAnInterceptor typeName => s!"{typeName} is not an Interceptor (needs before/commit/on_error)"
  | .notAConfig typeName => s!"{typeName} is not an InterceptorConfig (missing match())"
  | .ambiguous interceptor first second =>
    s!"Multiple configs match interceptor {interceptor}: {first} and {second}"

/-- The exit code of a program that cannot start because of it. -/
def exitCode : Nat := 16

/-- The category it is reported under. -/
def category : String := "configuration_failure"

end BindingFault

/-- **What can go wrong.** -/
inductive Fault where
  | header (f : HeaderFault)
  /-- A second response, after one of the given status. -/
  | alreadyWritten (status : Int)
  | binding (f : BindingFault)
  /-- A header line has characters that cannot be sent. -/
  | unencodable (f : Text.EncodeFault)
  /-- A number in a path has more digits than are read. -/
  | numberTooLong (digits : Nat)
  /-- Raised by a handler or a foreign interceptor. -/
  | foreign (kind message : String)

namespace Fault

/-- **The name of the kind of a fault**, as log records give it. A second response cannot be reported
    as such where the status of the first has no text. -/
def kind : Fault → String
  | .header _ => "HeaderClaimError"
  | .alreadyWritten status =>
    match decimal status with
    | .ok _ => "ResponseAlreadyWrittenError"
    | .error f => f.kind
  | .binding _ => "ConfigurationError"
  | .unencodable _ => "UnicodeEncodeError"
  | .numberTooLong _ => "ValueError"
  | .foreign kind _ => kind

/-- **The text of a fault.** -/
def message : Fault → String
  | .header f => f.message
  | .alreadyWritten status =>
    match decimal status with
    | .ok shown => s!"Response already written with status {shown}"
    | .error f => f.message
  | .binding f => f.message
  | .unencodable f => f.message
  | .numberTooLong digits => Number.tooManyDigits digits
  | .foreign _ message => message

end Fault

end OpenerPolicy
