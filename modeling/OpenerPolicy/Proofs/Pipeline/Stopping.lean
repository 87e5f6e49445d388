/-
  File:      OpenerPolicy/Proofs/Pipeline/Stopping.lean
  Subject:   A PHASE STOPS AT THE FIRST THAT WRITES OR FAILS.

  What a phase does is told here without the loop that does it: let all interceptors act one after the
  other, none of which stops the others, and look for the first answer that would have stopped the
  phase. The interceptors up to that one are those that are called, and nobody else is.

  * `answersOf`, `leftBy` -- what interceptors answer, one after the other, and the writer they leave;
  * `stops`, `actingOf` -- the answers that stop a phase, and the interceptors up to the first of them;
  * `answers_cases` -- those say that nothing was written, all of them or all but the last;
  * `runFrom_eq` -- how a phase ends, its writer and its trace, told from these;
  * **`phase_stops_at_first`** -- the same for whole phases, with what is reported of them.
-/
import OpenerPolicy.Proofs.Pipeline.Phases

namespace OpenerPolicy

variable {ρ : Type}

/-! ## 1. Interceptors, one after the other -/

/-- Whether an answer stops a phase: the response was written, or there was a fault. -/
def stops : Except Fault Bool → Bool
  | .ok false => false
  | _ => true

section Acting

variable (phase : Phase) (request : Request) (reply : Option ρ)

/-- What an interceptor does in a phase, with its config. -/
def Binding.act (b : Binding ρ) : Callback := b.interceptor.act phase request reply b.config

/-- **What interceptors answer**, each on the writer that those before it left. Nobody is stopped. -/
def answersOf : List (Binding ρ) → Writer → List (Except Fault Bool)
  | [], _ => []
  | b :: rest, w => (b.act phase request reply w).1 :: answersOf rest (b.act phase request reply w).2

/-- **The writer that interceptors leave**, one after the other. -/
def leftBy (bindings : List (Binding ρ)) (w : Writer) : Writer :=
  bindings.foldl (fun w b => (b.act phase request reply w).2) w

/-- **The interceptors up to the first whose answer stops the phase**, and that one; all of them if
    there is none. -/
def actingOf (bindings : List (Binding ρ)) (w : Writer) : List (Binding ρ) :=
  bindings.take ((answersOf phase request reply bindings w).findIdx stops + 1)

end Acting

/-- How a phase ends in which these answers were given: as the last of them says; nothing is written
    if there are none. -/
def verdict (answers : List (Except Fault Bool)) : Except Fault Bool :=
  answers.getLast?.getD (.ok false)

/-- The calls of interceptors, from a position of the pipeline on. -/
def callsOf (phase : Phase) (reply : Option ρ) (position : Nat) (acting : List (Binding ρ)) :
    List (Event ρ) :=
  (acting.zipIdx position).map fun c => .called c.2 phase c.1.config reply

/-- What is reported of a phase: who wrote the response before the handler was called. -/
def reportsOf (phase : Phase) (request : Request) (acting : List (Binding ρ))
    (outcome : Except Fault Bool) : List Log.Notice :=
  match phase, outcome, acting.getLast? with
  | .before, .ok true, some b => [shortCircuitNotice b.interceptor request]
  | _, _, _ => []

/-- The name of the interceptor that a notice is about. -/
def Log.Notice.interceptor? (n : Log.Notice) : Option String :=
  match (n.message.field? "details").bind (·.field? "interceptor") with
  | some (.text (.whole name)) => some name
  | _ => none

/-! ## 2. Verdicts -/

theorem stops_eq_false_iff (answer : Except Fault Bool) :
    stops answer = false ↔ answer = .ok false := by
  rcases answer with f | ⟨_ | _⟩ <;> simp [stops]

/-- A phase that nobody stops says that nothing was written. -/
theorem verdict_of_forall {answers : List (Except Fault Bool)} (h : ∀ a ∈ answers, a = .ok false) :
    verdict answers = .ok false := by
  unfold verdict
  cases hlast : answers.getLast? with
  | none => rfl
  | some last => exact h last (List.mem_of_getLast? hlast)

theorem verdict_concat (passed : List (Except Fault Bool)) (answer : Except Fault Bool) :
    verdict (passed ++ [answer]) = answer := by
  rw [verdict, List.getLast?_concat]
  rfl

/-- An answer that does not stop the phase leaves the verdict to those after it. -/
theorem verdict_cons (answers : List (Except Fault Bool)) :
    verdict (.ok false :: answers) = verdict answers := by
  rw [verdict, verdict, List.getLast?_cons]
  rfl

/-- **The response is written exactly if the last answer says so.** -/
theorem verdict_eq_written_iff (answers : List (Except Fault Bool)) :
    verdict answers = .ok true ↔ answers.getLast? = some (.ok true) := by
  unfold verdict
  cases answers.getLast? with
  | none =>
    constructor
    · intro h
      cases h
    · intro h
      cases h
  | some last => exact ⟨congrArg some, Option.some.inj⟩

/-! ## 3. The interceptors that act -/

section Phase

variable {phase : Phase} {request : Request} {reply : Option ρ}

theorem actingOf_cons_of_stops {b : Binding ρ} {w : Writer}
    (h : stops (b.act phase request reply w).1 = true) (rest : List (Binding ρ)) :
    actingOf phase request reply (b :: rest) w = [b] := by
  rw [actingOf, answersOf, List.findIdx_cons, h]
  rfl

theorem actingOf_cons_of_passed {b : Binding ρ} {w : Writer}
    (h : (b.act phase request reply w).1 = .ok false) (rest : List (Binding ρ)) :
    actingOf phase request reply (b :: rest) w
      = b :: actingOf phase request reply rest (b.act phase request reply w).2 := by
  rw [actingOf, answersOf, List.findIdx_cons, h]
  rfl

/-- **The answers of those who act**: nobody stops the phase and all of them act, or the last one stops
    it and nobody before. -/
theorem answers_cases (bindings : List (Binding ρ)) (w : Writer) :
    (actingOf phase request reply bindings w = bindings ∧
      ∀ a ∈ answersOf phase request reply (actingOf phase request reply bindings w) w, a = .ok false) ∨
    ∃ passed last,
      answersOf phase request reply (actingOf phase request reply bindings w) w = passed ++ [last] ∧
      (∀ a ∈ passed, a = .ok false) ∧ stops last = true := by
  induction bindings generalizing w with
  | nil => exact Or.inl ⟨rfl, fun a ha => absurd ha List.not_mem_nil⟩
  | cons b rest ih =>
    cases hs : stops (b.act phase request reply w).1 with
    | true =>
      rw [actingOf_cons_of_stops hs]
      exact Or.inr ⟨[], _, rfl, fun a ha => absurd ha List.not_mem_nil, hs⟩
    | false =>
      have hpassed := (stops_eq_false_iff _).1 hs
      rw [actingOf_cons_of_passed hpassed, answersOf]
      rcases ih (b.act phase request reply w).2 with ⟨hall, hnone⟩ | ⟨passed, last, heq, hp, hstop⟩
      · exact Or.inl ⟨congrArg (b :: ·) hall, List.forall_mem_cons.2 ⟨hpassed, hnone⟩⟩
      · rw [heq]
        exact Or.inr ⟨_ :: passed, last, rfl, List.forall_mem_cons.2 ⟨hpassed, hp⟩, hstop⟩

section Verdict

variable (bindings : List (Binding ρ)) (w : Writer)

/-- **A fault ends a phase exactly if one of those who act has it.** -/
theorem verdict_eq_error_iff (f : Fault) :
    let answers := answersOf phase request reply (actingOf phase request reply bindings w) w
    verdict answers = .error f ↔ .error f ∈ answers := by
  intro answers
  rcases answers_cases bindings w with ⟨-, hnone⟩ | ⟨passed, last, heq, hpassed, -⟩
  · rw [verdict_of_forall hnone]
    constructor
    · intro h
      cases h
    · intro hf
      cases hnone _ hf
  · have hno : .error f ∉ passed := by
      intro hf
      cases hpassed _ hf
    rw [show answers = passed ++ [last] from heq, verdict_concat, List.mem_append,
      List.mem_singleton, or_iff_right hno]
    exact eq_comm

/-- **Nothing is written exactly if nobody stops the phase**, and then all interceptors act. -/
theorem verdict_eq_not_written_iff :
    let acting := actingOf phase request reply bindings w
    let answers := answersOf phase request reply acting w
    verdict answers = .ok false ↔ acting = bindings ∧ ∀ a ∈ answers, a = .ok false := by
  intro acting answers
  rcases answers_cases bindings w with hnone | ⟨passed, last, heq, -, hstop⟩
  · exact ⟨fun _ => hnone, fun h => verdict_of_forall h.2⟩
  · have hlast : last ≠ .ok false := by
      rintro rfl
      cases hstop
    rw [show answers = passed ++ [last] from heq, verdict_concat]
    refine ⟨fun h => absurd h hlast, fun h => ?_⟩
    exact h.2 last (List.mem_append_right _ (List.mem_singleton_self last))

end Verdict

/-! ## 4. A phase -/

/-- A notice that the response was written names who wrote it. -/
theorem interceptor?_shortCircuitNotice (i : Interceptor ρ) (request : Request) :
    (shortCircuitNotice i request).interceptor? = some i.typeName := rfl

/-- Nothing is reported of a later phase, or if nothing was written. -/
theorem reportsOf_eq_nil {acting : List (Binding ρ)} {outcome : Except Fault Bool}
    (h : ¬(phase = .before ∧ outcome = .ok true)) : reportsOf phase request acting outcome = [] := by
  unfold reportsOf
  split
  · exact absurd ⟨rfl, rfl⟩ h
  · rfl

theorem reportsOf_of_written {acting : List (Binding ρ)} {b : Binding ρ}
    (hb : acting.getLast? = some b) :
    reportsOf .before request acting (.ok true) = [shortCircuitNotice b.interceptor request] := by
  simp only [reportsOf, hb]

/-- Somebody acts if something was written. -/
theorem exists_getLast?_of_written {acting : List (Binding ρ)} {w : Writer}
    (h : verdict (answersOf phase request reply acting w) = .ok true) :
    ∃ b, acting.getLast? = some b := by
  cases acting with
  | nil => cases h
  | cons b rest => exact ⟨_, List.getLast?_cons⟩

/-- Who is reported does not depend on those who let the phase go on. -/
theorem reportsOf_cons (b : Binding ρ) {acting : List (Binding ρ)} {outcome : Except Fault Bool}
    (h : acting = [] → outcome = .ok false) :
    reportsOf phase request (b :: acting) outcome = reportsOf phase request acting outcome := by
  unfold reportsOf
  rw [List.getLast?_cons]
  cases hlast : acting.getLast? with
  | none =>
    rw [h (List.getLast?_eq_none_iff.1 hlast)]
    cases phase <;> rfl
  | some last => rfl

/-- **How a phase ends, the writer it leaves, and its trace**, as those who act tell it. -/
theorem runFrom_eq (position : Nat) (bindings : List (Binding ρ)) (w : Writer) :
    runFrom phase request reply position bindings w =
      let acting := actingOf phase request reply bindings w
      let outcome := verdict (answersOf phase request reply acting w)
      ⟨outcome, leftBy phase request reply acting w, callsOf phase reply position acting
        ++ (reportsOf phase request acting outcome).map .logged⟩ := by
  induction bindings generalizing position w with
  | nil => cases phase <;> rfl
  | cons b rest ih =>
    rw [runFrom]
    rcases hact : b.interceptor.act phase request reply b.config w with ⟨f | ⟨_ | _⟩, w'⟩
    · have hb : b.act phase request reply w = (.error f, w') := hact
      rw [actingOf_cons_of_stops (by rw [hb]; rfl)]
      simp only [answersOf, leftBy, List.foldl_cons, List.foldl_nil, hb]
      cases phase <;> rfl
    · have hb : b.act phase request reply w = (.ok false, w') := hact
      rw [actingOf_cons_of_passed (by rw [hb])]
      simp only [answersOf, leftBy, List.foldl_cons, hb, verdict_cons, ih (position + 1) w']
      rw [reportsOf_cons]
      · rfl
      · intro hnone
        rw [hnone]
        rfl
    · have hb : b.act phase request reply w = (.ok true, w') := hact
      rw [actingOf_cons_of_stops (by rw [hb]; rfl)]
      simp only [answersOf, leftBy, List.foldl_cons, List.foldl_nil, hb]
      cases phase <;> rfl

end Phase

/-- **A phase stops at the first that writes or fails.** Interceptors may do anything. Those that are
    called are those up to the first that says that it wrote the response, or has a fault, in order,
    each of them once and with its config. The phase has the fault that one of them has; it says that
    the response was written exactly if the last of them does; if neither is so, it says that nothing
    was written, and all interceptors were called. The writer is the one that they leave. One thing is
    reported: who wrote the response, before the handler was called. -/
theorem phase_stops_at_first (phase : Phase) (bindings : List (Binding ρ)) (request : Request)
    (reply : Option ρ) (w : Writer) :
    let acting := bindings.take ((answersOf phase request reply bindings w).findIdx stops + 1)
    let answers := answersOf phase request reply acting w
    let run := runPhase phase bindings request reply w
    ∃ reports,
      run.events = callsOf phase reply 0 acting ++ reports.map .logged ∧
      run.writer = leftBy phase request reply acting w ∧
      (∀ f, run.outcome = .error f ↔ .error f ∈ answers) ∧
      (run.outcome = .ok true ↔ answers.getLast? = some (.ok true)) ∧
      (run.outcome = .ok false ↔ acting = bindings ∧ ∀ a ∈ answers, a = .ok false) ∧
      ((¬(phase = .before ∧ run.outcome = .ok true) ∧ reports = []) ∨
        (phase = .before ∧ run.outcome = .ok true ∧ ∃ notice b, reports = [notice] ∧
          notice.level = Log.info ∧ acting.getLast? = some b ∧
          notice.interceptor? = some b.interceptor.typeName)) := by
  intro acting answers run
  have hrun : run = _ := runFrom_eq 0 bindings w
  have houtcome : run.outcome = verdict answers := by rw [hrun]; rfl
  refine ⟨reportsOf phase request acting run.outcome, ?_, ?_, ?_, ?_, ?_, ?_⟩
  · rw [houtcome, hrun]
    rfl
  · rw [hrun]
    rfl
  · rw [houtcome]
    exact verdict_eq_error_iff bindings w
  · rw [houtcome]
    exact verdict_eq_written_iff answers
  · rw [houtcome]
    exact verdict_eq_not_written_iff bindings w
  · by_cases hwritten : phase = .before ∧ run.outcome = .ok true
    · obtain ⟨hphase, hok⟩ := hwritten
      obtain ⟨b, hb⟩ := exists_getLast?_of_written (houtcome.symm.trans hok)
      refine Or.inr ⟨hphase, hok, shortCircuitNotice b.interceptor request, b, ?_, rfl, hb,
        interceptor?_shortCircuitNotice b.interceptor request⟩
      rw [hok, hphase, reportsOf_of_written hb]
    · exact Or.inl ⟨hwritten, reportsOf_eq_nil hwritten⟩

end OpenerPolicy
