/-
  File:      OpenerPolicy/Proofs/Steps.lean
  Subject:   STEPS THAT MAY FAIL.

  Readers, changes of headers and whole phases are chains of steps, each of which gives a result or a
  fault. A chain succeeds exactly if every step of it does.

  * `bind_eq_ok_iff`, `bind_eq_error` -- one step and what follows it;
  * `map_eq_ok_iff` -- a step whose result is given another form; `mapError_eq_ok_iff`,
    `mapError_eq_error` -- a step whose faults are;
  * **`foldlM_eq_ok_iff`** -- steps along a list, each of which succeeds under a condition of its own;
  * `holds_of_foldlM` -- what none of them breaks; `foldlM_eq_error` -- a fault is one of them.
-/

namespace OpenerPolicy

variable {σ α β ε : Type}

theorem bind_eq_ok_iff {step : Except ε α} {next : α → Except ε β} {b : β} :
    step >>= next = .ok b ↔ ∃ a, step = .ok a ∧ next a = .ok b := by
  constructor
  · intro h
    cases step with
    | error f => cases h
    | ok a => exact ⟨a, rfl, h⟩
  · rintro ⟨a, rfl, h⟩
    exact h

/-- A fault of two steps is one of the first or of the second. -/
theorem bind_eq_error {step : Except ε α} {next : α → Except ε β} {f : ε}
    (h : step >>= next = .error f) : step = .error f ∨ ∃ a, step = .ok a ∧ next a = .error f := by
  cases step with
  | error g => exact Or.inl (congrArg Except.error (Except.error.inj h))
  | ok a => exact Or.inr ⟨a, rfl, h⟩

theorem map_eq_ok_iff {step : Except ε α} {form : α → β} {b : β} :
    step.map form = .ok b ↔ ∃ a, step = .ok a ∧ b = form a := by
  constructor
  · intro h
    cases step with
    | error f => cases h
    | ok a => exact ⟨a, rfl, (Except.ok.inj h).symm⟩
  · rintro ⟨a, rfl, rfl⟩
    rfl

theorem mapError_eq_ok_iff {ε' : Type} {step : Except ε α} {wrap : ε → ε'} {a : α} :
    step.mapError wrap = .ok a ↔ step = .ok a := by
  cases step with
  | ok b => constructor <;> intro h <;> cases h <;> rfl
  | error f => constructor <;> intro h <;> cases h

theorem mapError_eq_error {ε' : Type} {step : Except ε α} {wrap : ε → ε'} {f : ε'}
    (h : step.mapError wrap = .error f) : ∃ f', step = .error f' ∧ wrap f' = f := by
  cases step with
  | ok b => cases h
  | error f' => exact ⟨f', rfl, Except.error.inj h⟩

/-- **Steps along a list succeed exactly if their conditions hold**, and do then what they do
    without failing. -/
theorem foldlM_eq_ok_iff {step : σ → α → Except ε σ} {next : σ → α → σ} {good : α → Prop}
    {l : List α} (h : ∀ a ∈ l, ∀ s s', step s a = .ok s' ↔ good a ∧ s' = next s a) (s s' : σ) :
    l.foldlM step s = .ok s' ↔ (∀ a ∈ l, good a) ∧ s' = l.foldl next s := by
  induction l generalizing s with
  | nil =>
    constructor
    · intro hs
      exact ⟨fun a ha => absurd ha List.not_mem_nil, (Except.ok.inj hs).symm⟩
    · rintro ⟨-, rfl⟩
      rfl
  | cons a rest ih =>
    have ih := ih fun b hb => h b (List.mem_cons_of_mem a hb)
    have ha := h a List.mem_cons_self s
    rw [List.foldlM_cons, List.forall_mem_cons, List.foldl_cons, bind_eq_ok_iff]
    constructor
    · rintro ⟨t, ht, hs⟩
      obtain ⟨hg, rfl⟩ := (ha t).1 ht
      obtain ⟨hrest, rfl⟩ := (ih (next s a)).1 hs
      exact ⟨⟨hg, hrest⟩, rfl⟩
    · rintro ⟨⟨hg, hrest⟩, rfl⟩
      exact ⟨next s a, (ha _).2 ⟨hg, rfl⟩, (ih _).2 ⟨hrest, rfl⟩⟩

/-- What no step along a list breaks holds at its end. -/
theorem holds_of_foldlM {step : σ → α → Except ε σ} {P : σ → Prop}
    (h : ∀ s a s', P s → step s a = .ok s' → P s') {l : List α} {s s' : σ} (hs : P s)
    (hl : l.foldlM step s = .ok s') : P s' := by
  induction l generalizing s with
  | nil =>
    obtain rfl := Except.ok.inj hl
    exact hs
  | cons a rest ih =>
    rw [List.foldlM_cons] at hl
    obtain ⟨t, ht, hrest⟩ := bind_eq_ok_iff.1 hl
    exact ih (h s a t hs ht) hrest

/-- A fault of steps along a list is one of a single step. -/
theorem foldlM_eq_error {step : σ → α → Except ε σ} {l : List α} {s : σ} {f : ε}
    (h : l.foldlM step s = .error f) : ∃ a ∈ l, ∃ t, step t a = .error f := by
  induction l generalizing s with
  | nil => cases h
  | cons a rest ih =>
    rw [List.foldlM_cons] at h
    rcases bind_eq_error h with ha | ⟨t, -, hrest⟩
    · exact ⟨a, List.mem_cons_self, s, ha⟩
    · obtain ⟨b, hb, t', ht⟩ := ih hrest
      exact ⟨b, List.mem_cons_of_mem a hb, t', ht⟩

end OpenerPolicy
