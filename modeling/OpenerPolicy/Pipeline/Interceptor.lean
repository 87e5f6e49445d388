/-
  File:      OpenerPolicy/Pipeline/Interceptor.lean
  Subject:   INTERCEPTORS AND THE CONFIGS OF SINGLE HANDLERS.

  An interceptor acts in three phases: before the handler, when its response is committed, and when
  the handler failed. In each it may change the response under construction, and it says whether it
  has written the response itself. The opener interceptor claims the two opener headers and sets them
  to its directives; every other interceptor is foreign. A config belongs to a handler and is handed
  to the interceptors it accepts; an override replaces the directives of opener interceptors.

  * `Directives.emit` -- claims and sets both opener headers;
  * `Config`, `Config.accepts` -- configs, and the interceptors they are meant for;
  * `Interceptor`, `Interceptor.act` -- interceptors, and what they do in a phase;
  * `Component` -- whatever is handed in as an interceptor or a config, and may be neither.
-/
import OpenerPolicy.Pipeline.Request
import OpenerPolicy.Policy.Directives
import OpenerPolicy.Response.Writer

namespace OpenerPolicy

/-! ## 1. Phases -/

inductive Phase where
  | before
  | commit
  | onError
  deriving DecidableEq, Repr

/-- The name of a phase, as traces give it. -/
def Phase.name : Phase → String
  | .before => "before"
  | .commit => "commit"
  | .onError => "on_error"

/-- **What is done in a phase**: whether the response was written, and the writer afterwards. The
    writer is there after a fault too, with whatever was done to it before. -/
abbrev Callback := Writer → Except Fault Bool × Writer

/-- **Claims and sets both opener headers.** If the second one is claimed already, the first one
    stays claimed and set. -/
def Directives.emit (d : Directives) : Callback := fun w =>
  match w.header.claim openerHeader with
  | .error f => (.error (.header f), w)
  | .ok (header, enforcing) =>
    let header := header.assign enforcing d.enforced
    match header.claim reportOnlyHeader with
    | .error f => (.error (.header f), { w with header })
    | .ok (header, reporting) => (.ok false, { w with header := header.assign reporting d.reportOnly })

/-! ## 2. Configs -/

/-- What a config can see of an interceptor. -/
inductive Signature where
  | opener (d : Directives)
  /-- An interceptor of another type; the label tells those of one type apart. -/
  | foreign (typeName label : String)
  deriving DecidableEq, Repr

def Signature.typeName : Signature → String
  | .opener _ => "Interceptor"
  | .foreign typeName _ => typeName

/-- A config of a handler. -/
inductive Config where
  /-- Directives for this handler alone. -/
  | override (d : Directives)
  /-- A config of another type, with its content and the interceptors it is meant for. -/
  | foreign (typeName : String) (content : Json) (accepts : Signature → Bool)

namespace Config

def typeName : Config → String
  | .override _ => "Overrider"
  | .foreign typeName _ _ => typeName

/-- **Whether a config is meant for an interceptor.** An override is meant for every opener
    interceptor, whatever its directives. -/
def accepts : Config → Signature → Bool
  | .override _, .opener _ => true
  | .override _, .foreign _ _ => false
  | .foreign _ _ accepts, s => accepts s

end Config

/-! ## 3. Interceptors -/

/-- An interceptor of another kind. `ρ` is the type of the handlers' responses; a response is there
    only in the later two phases. -/
structure Foreign (ρ : Type) where
  typeName : String
  label : String
  act : Phase → Request → Option ρ → Option Config → Callback

inductive Interceptor (ρ : Type) where
  | opener (d : Directives)
  | foreign (f : Foreign ρ)

namespace Interceptor

variable {ρ : Type}

def signature : Interceptor ρ → Signature
  | .opener d => .opener d
  | .foreign f => .foreign f.typeName f.label

def typeName (i : Interceptor ρ) : String := i.signature.typeName

/-- The directives that count for an opener interceptor: those of an override, if it is given one. -/
def effective (d : Directives) : Option Config → Directives
  | some (.override d') => d'
  | _ => d

/-- **What an interceptor does in a phase.** The opener interceptor acts before the handler only. -/
def act : Interceptor ρ → Phase → Request → Option ρ → Option Config → Callback
  | .opener d, .before, _, _, config => (effective d config).emit
  | .opener _, _, _, _, _ => fun w => (.ok false, w)
  | .foreign f, phase, request, reply, config => f.act phase request reply config

end Interceptor

/-! ## 4. Components -/

/-- Whatever is handed in as an interceptor or a config. -/
inductive Component (ρ : Type) where
  | interceptor (i : Interceptor ρ)
  | config (c : Config)
  | neither (typeName : String)

namespace Component

variable {ρ : Type}

def typeName : Component ρ → String
  | .interceptor i => i.typeName
  | .config c => c.typeName
  | .neither typeName => typeName

/-- What a config can see of a component. -/
def signature : Component ρ → Signature
  | .interceptor i => i.signature
  | c => .foreign c.typeName ""

def asInterceptor : Component ρ → Except BindingFault (Interceptor ρ)
  | .interceptor i => .ok i
  | c => .error (.notAnInterceptor c.typeName)

def asConfig : Component ρ → Except BindingFault Config
  | .config c => .ok c
  | c => .error (.notAConfig c.typeName)

/-- Whether a component is a config that is meant for an interceptor. -/
def accepts (c : Component ρ) (s : Signature) : Bool :=
  match c with
  | .config c => c.accepts s
  | _ => false

end Component

end OpenerPolicy
