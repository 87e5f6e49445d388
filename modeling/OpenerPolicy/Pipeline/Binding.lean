/-
  File:      OpenerPolicy/Pipeline/Binding.lean
  Subject:   BINDING THE CONFIGS OF A HANDLER TO THE INTERCEPTORS OF A PIPELINE.

  Every interceptor gets the one config that is meant for it, or none. Two configs for one
  interceptor, and a candidate that is no config at all, are faults; a config that is meant for no
  interceptor is ignored.

  * `assemble` -- the interceptors of a pipeline, if all components are interceptors;
  * `select` -- the config of one interceptor among the candidates;
  * `bindAll` -- the configs of all interceptors, and a notice for each config selected.
-/
import OpenerPolicy.Log.Record
import OpenerPolicy.Pipeline.Interceptor

namespace OpenerPolicy

variable {ρ : Type}

/-- **The interceptors of a pipeline**; the first component that is none is a fault. -/
def assemble : List (Component ρ) → Except BindingFault (List (Interceptor ρ))
  | [] => .ok []
  | c :: rest => do
    let i ← c.asInterceptor
    let is ← assemble rest
    return i :: is

/-- Goes on selecting where `chosen` was found before. -/
def selectFrom (s : Signature) (chosen : Option Config) :
    List (Component ρ) → Except BindingFault (Option Config)
  | [] => .ok chosen
  | candidate :: rest =>
    match candidate.asConfig with
    | .error f => .error f
    | .ok c =>
      if c.accepts s then
        match chosen with
        | some first => .error (.ambiguous s.typeName first.typeName c.typeName)
        | none => selectFrom s (some c) rest
      else selectFrom s chosen rest

/-- **The config of an interceptor**, known by its signature: the only candidate that is meant for
    it. -/
def select (s : Signature) (candidates : List (Component ρ)) :
    Except BindingFault (Option Config) :=
  selectFrom s none candidates

/-- An interceptor and its config. -/
structure Binding (ρ : Type) where
  interceptor : Interceptor ρ
  config : Option Config

/-- The notice that a config was selected. -/
def selectionNotice (i : Interceptor ρ) (c : Config) : Log.Notice where
  level := Log.debug
  message := .object
    [("event", .str "interceptor_config_selected"),
     ("message", .str (c.typeName ++ " overrides " ++ i.typeName)),
     ("component", .str "dispatch")]

/-- **The bindings of all interceptors**, up to the first fault, with the notices given until then. -/
def bindAll (candidates : List (Component ρ)) :
    List (Interceptor ρ) → Except BindingFault (List (Binding ρ)) × List Log.Notice
  | [] => (.ok [], [])
  | i :: rest =>
    match select i.signature candidates with
    | .error f => (.error f, [])
    | .ok config =>
      let notices := (config.map (selectionNotice i)).toList
      let (bindings, more) := bindAll candidates rest
      (bindings.map (⟨i, config⟩ :: ·), notices ++ more)

end OpenerPolicy
