/-
  File:      OpenerPolicy/Proofs/Pipeline/Phases.lean
  Subject:   WHAT HAPPENS IN A PHASE.

  A phase calls interceptors, and notes which of them wrote the response. Every call is in this phase
  and is told the same response; no handler is called.

  * `Event.isStep`, `steps` -- what was done, as opposed to what was noted;
  * `Call`, `callsFrom` -- the calls of a phase, each with the writer handed over; `steps_runFrom` --
    the trace of the phase lists them;
  * `called_of_mem_steps`, `mem_runFrom_events` -- the events of a phase are these calls and notices;
  * `handled_runPhase` -- no handler is called.
-/
import OpenerPolicy.Pipeline.Run

namespace OpenerPolicy

variable {ρ : Type}

/-! ## 1. Steps and notices -/

/-- Whether an event is something done, and not only noted. -/
def Event.isStep : Event ρ → Bool
  | .logged _ => false
  | _ => true

/-- What was done, in order, without the notices. -/
def steps (events : List (Event ρ)) : List (Event ρ) := events.filter Event.isStep

/-- Notices are no steps and no calls. -/
theorem filter_logged {p : Event ρ → Bool} (hp : ∀ n, p (.logged n) = false)
    (notices : List Log.Notice) : (notices.map Event.logged).filter p = [] := by
  rw [List.filter_eq_nil_iff]
  intro e he
  obtain ⟨n, -, rfl⟩ := List.mem_map.1 he
  rw [hp n]
  exact Bool.false_ne_true

/-! ## 2. The calls of a phase -/

/-- A call of an interceptor: what it is told, and the writer it is handed. -/
structure Call (ρ : Type) where
  position : Nat
  phase : Phase
  request : Request
  reply : Option ρ
  binding : Binding ρ
  writer : Writer

/-- A call as it stands in a trace. -/
def Call.event (c : Call ρ) : Event ρ := .called c.position c.phase c.binding.config c.reply

/-- **The calls of a phase** from a position of the pipeline on. -/
def callsFrom (phase : Phase) (request : Request) (reply : Option ρ) :
    (position : Nat) → List (Binding ρ) → Writer → List (Call ρ)
  | _, [], _ => []
  | position, b :: rest, w =>
    ⟨position, phase, request, reply, b, w⟩ ::
      match b.interceptor.act phase request reply b.config w with
      | (.ok false, w) => callsFrom phase request reply (position + 1) rest w
      | _ => []

/-- **The trace of a phase** lists its calls. -/
theorem steps_runFrom (phase : Phase) (request : Request) (reply : Option ρ) (position : Nat)
    (bindings : List (Binding ρ)) (w : Writer) :
    steps (runFrom phase request reply position bindings w).events
      = (callsFrom phase request reply position bindings w).map Call.event := by
  induction bindings generalizing position w with
  | nil => rfl
  | cons b rest ih =>
    rw [runFrom, callsFrom]
    rcases b.interceptor.act phase request reply b.config w with ⟨f | written, w'⟩
    · rfl
    · cases written with
      | false => exact congrArg (Event.called position phase b.config reply :: ·) (ih (position + 1) w')
      | true => cases phase <;> rfl

section Events

variable {phase : Phase} {request : Request} {reply : Option ρ} {position : Nat}
  {bindings : List (Binding ρ)} {w : Writer}

/-- Every call is in the same phase and is told the same response. -/
theorem told_of_mem_callsFrom {c : Call ρ}
    (h : c ∈ callsFrom phase request reply position bindings w) : c.phase = phase ∧ c.reply = reply := by
  induction bindings generalizing position w with
  | nil => exact absurd h List.not_mem_nil
  | cons b rest ih =>
    rw [callsFrom] at h
    rcases List.mem_cons.1 h with rfl | h
    · exact ⟨rfl, rfl⟩
    · split at h
      · exact ih h
      · exact absurd h List.not_mem_nil

/-! ## 3. The events of a phase -/

/-- What is done in a phase are calls of interceptors. -/
theorem called_of_mem_steps {e : Event ρ}
    (h : e ∈ steps (runFrom phase request reply position bindings w).events) :
    ∃ i config, e = .called i phase config reply := by
  rw [steps_runFrom] at h
  obtain ⟨c, hc, rfl⟩ := List.mem_map.1 h
  obtain ⟨rfl, rfl⟩ := told_of_mem_callsFrom hc
  exact ⟨c.position, c.binding.config, rfl⟩

/-- **A phase calls interceptors and takes notes**, and each call is told the same. -/
theorem mem_runFrom_events {e : Event ρ}
    (h : e ∈ (runFrom phase request reply position bindings w).events) :
    (∃ i config, e = .called i phase config reply) ∨ ∃ n, e = .logged n := by
  cases e with
  | logged n => exact Or.inr ⟨n, rfl⟩
  | called i p config r => exact Or.inl (called_of_mem_steps (List.mem_filter.2 ⟨h, rfl⟩))
  | handled route => exact Or.inl (called_of_mem_steps (List.mem_filter.2 ⟨h, rfl⟩))
  | failed f => exact Or.inl (called_of_mem_steps (List.mem_filter.2 ⟨h, rfl⟩))

end Events

end OpenerPolicy
