/-
  File:      OpenerPolicy/Proofs/Pipeline/Precedence.lean
  Subject:   WHICH FAULT ENDS A SELECTION.

  A selection goes through the candidates in order and stops at the first one that is wrong: one that
  is no config, or the second one that is meant for the interceptor. So which of the two faults is
  reported, and which candidates it names, is a matter of positions among the candidates.

  * `ImpostorAt`, `FirstTwo` -- the positions of candidates that are no configs, and the first two that
    are meant for an interceptor;
  * `selectFrom_append` -- a selection can be cut in two anywhere;
  * `exists_stop_of_error` -- the candidate at which a selection stops, and what was chosen before it;
  * `select_cases` -- all that a selection can come to, told by positions;
  * **`select_precedence`** -- when each of the two faults is reported, what it names, and what is
    selected otherwise.
-/
import OpenerPolicy.Proofs.Pipeline.Selection
import OpenerPolicy.Proofs.Steps

namespace OpenerPolicy

variable {ρ : Type} {s : Signature} {candidates : List (Component ρ)}

/-! ## 1. Positions -/

/-- **The candidate at a position is no config.** -/
def ImpostorAt (candidates : List (Component ρ)) (position : Nat) : Prop :=
  ∃ c, candidates[position]? = some c ∧ c.config? = none

/-- **The first two positions whose candidates are meant for an interceptor.** -/
structure FirstTwo (s : Signature) (candidates : List (Component ρ)) (first second : Nat) : Prop where
  lt : first < second
  atFirst : AcceptedAt s candidates first
  atSecond : AcceptedAt s candidates second
  only : ∀ p, p < second → AcceptedAt s candidates p → p = first

theorem acceptedAt_take {position p : Nat} :
    AcceptedAt s (candidates.take position) p ↔ p < position ∧ AcceptedAt s candidates p := by
  rw [AcceptedAt, AcceptedAt, List.getElem?_take]
  split
  · next hlt => exact (and_iff_right hlt).symm
  · next hge =>
    refine iff_of_false ?_ fun h => hge h.1
    rintro ⟨c, hc, -⟩
    cases hc

theorem ImpostorAt.take {position p : Nat} (h : ImpostorAt candidates p) (hlt : p < position) :
    ImpostorAt (candidates.take position) p := by
  obtain ⟨c, hc, hnone⟩ := h
  exact ⟨c, by rw [List.getElem?_take, if_pos hlt, hc], hnone⟩

/-- No candidate is both. -/
theorem not_acceptedAt_of_impostorAt {p : Nat} (h : ImpostorAt candidates p) :
    ¬ AcceptedAt s candidates p := by
  rintro ⟨c, hc, haccepts⟩
  obtain ⟨c', hc', hnone⟩ := h
  obtain rfl : c = c' := Option.some.inj (hc.symm.trans hc')
  obtain ⟨config, rfl, -⟩ := exists_config_of_accepts haccepts
  cases hnone

/-! ## 2. Where a selection stops -/

/-- **A selection can be cut in two anywhere**: what was chosen is taken along. -/
theorem selectFrom_append (s : Signature) (chosen : Option Config) (first second : List (Component ρ)) :
    selectFrom s chosen (first ++ second)
      = selectFrom s chosen first >>= fun chosen => selectFrom s chosen second := by
  induction first generalizing chosen with
  | nil => rfl
  | cons candidate rest ih =>
    rw [List.cons_append, selectFrom, selectFrom]
    cases candidate.asConfig with
    | error f => rfl
    | ok c =>
      dsimp only
      split
      · cases chosen with
        | none => exact ih (some c)
        | some earlier => rfl
      · exact ih chosen

/-- A selection that fails stops at a candidate: those before it are selected from without a fault,
    and the fault comes from this one. -/
theorem exists_stop_of_error {chosen : Option Config} {f : BindingFault}
    (h : selectFrom s chosen candidates = .error f) :
    ∃ p c earlier, candidates[p]? = some c ∧ selectFrom s chosen (candidates.take p) = .ok earlier ∧
      selectFrom s earlier [c] = .error f := by
  induction candidates generalizing chosen with
  | nil => cases h
  | cons candidate rest ih =>
    rw [← List.singleton_append, selectFrom_append] at h
    rcases bind_eq_error h with hfirst | ⟨next, hnext, hrest⟩
    · exact ⟨0, candidate, chosen, rfl, rfl, hfirst⟩
    · obtain ⟨p, c, earlier, hc, htake, hstop⟩ := ih hrest
      refine ⟨p + 1, c, earlier, hc, ?_, hstop⟩
      rw [List.take_succ_cons, ← List.singleton_append, selectFrom_append, hnext]
      exact htake

/-- **What a single candidate can be wrong with**: it is no config, or it is meant for the interceptor
    although another one was chosen before. -/
theorem selectFrom_singleton_eq_error {earlier : Option Config} {c : Component ρ} {f : BindingFault}
    (h : selectFrom s earlier [c] = .error f) :
    (c.config? = none ∧ f = .notAConfig c.typeName) ∨
      ∃ first second, earlier = some first ∧ c = .config second ∧ second.accepts s = true ∧
        f = .ambiguous s.typeName first.typeName second.typeName := by
  cases c with
  | interceptor i => exact Or.inl ⟨rfl, (Except.error.inj h).symm⟩
  | neither typeName => exact Or.inl ⟨rfl, (Except.error.inj h).symm⟩
  | config second =>
    rw [selectFrom] at h
    simp only [Component.asConfig] at h
    split at h
    · next haccepts =>
      cases earlier with
      | none => cases h
      | some first => exact Or.inr ⟨first, second, rfl, rfl, haccepts, (Except.error.inj h).symm⟩
    · cases h

/-- A selection without a fault has met no impostor. -/
theorem not_impostorAt_of_select {config : Option Config} (h : select s candidates = .ok config)
    (p : Nat) : ¬ ImpostorAt candidates p := by
  rintro ⟨c, hc, hnone⟩
  have hsome := ((select_eq_ok_iff s candidates config).1 h).1 c (List.mem_of_getElem? hc)
  rw [hnone] at hsome
  cases hsome

/-- At most one position is meant for the interceptor where one candidate is chosen. -/
theorem Chosen.eq {config : Option Config} (h : Chosen s candidates config) {p q : Nat}
    (hp : AcceptedAt s candidates p) (hq : AcceptedAt s candidates q) : p = q := by
  cases config with
  | none => exact absurd hp (h p)
  | some config =>
    obtain ⟨r, -, honly⟩ := h
    exact ((honly p).1 hp).trans ((honly q).1 hq).symm

/-! ## 3. All that a selection can come to -/

/-- **All outcomes of a selection**: it stops at the first impostor, at most one candidate before it
    being meant for the interceptor; or at the second candidate that is meant for it, with no impostor
    before; or all candidates are configs, and at most one is meant for it. -/
theorem select_cases (s : Signature) (candidates : List (Component ρ)) :
    (∃ p c, select s candidates = .error (.notAConfig c.typeName) ∧ candidates[p]? = some c ∧
      c.config? = none ∧ (∀ r, ImpostorAt candidates r → p ≤ r) ∧
      ∀ a b, FirstTwo s candidates a b → p < b) ∨
    (∃ a b first second,
      select s candidates = .error (.ambiguous s.typeName first.typeName second.typeName) ∧
      FirstTwo s candidates a b ∧ candidates[a]? = some (.config first) ∧
      candidates[b]? = some (.config second) ∧ ∀ r, ImpostorAt candidates r → b < r) ∨
    ∃ config, select s candidates = .ok config ∧ (∀ r, ¬ ImpostorAt candidates r) ∧
      Chosen s candidates config := by
  cases hselect : select s candidates with
  | ok config =>
    exact Or.inr (Or.inr ⟨config, rfl, not_impostorAt_of_select hselect, chosen_of_select hselect⟩)
  | error f =>
    obtain ⟨p, c, earlier, hc, htake, hstop⟩ := exists_stop_of_error hselect
    have hchosen := chosen_of_select htake
    have hfirst (r : Nat) (himpostor : ImpostorAt candidates r) : p ≤ r :=
      Nat.le_of_not_lt fun hlt => not_impostorAt_of_select htake r (himpostor.take hlt)
    rcases selectFrom_singleton_eq_error hstop with
      ⟨hnone, rfl⟩ | ⟨first, second, rfl, rfl, haccepts, rfl⟩
    · refine Or.inl ⟨p, c, rfl, hc, hnone, hfirst, fun a b htwo => Nat.lt_of_not_le fun hle => ?_⟩
      -- the second one would be before the stop, so both of them would be
      have hne : b ≠ p := by
        rintro rfl
        exact not_acceptedAt_of_impostorAt ⟨c, hc, hnone⟩ htwo.atSecond
      have hlt : b < p := Nat.lt_of_le_of_ne hle hne
      have heq := hchosen.eq (acceptedAt_take.2 ⟨Nat.lt_trans htwo.lt hlt, htwo.atFirst⟩)
        (acceptedAt_take.2 ⟨hlt, htwo.atSecond⟩)
      exact absurd heq (Nat.ne_of_lt htwo.lt)
    · obtain ⟨a, ha, honly⟩ := hchosen
      obtain ⟨hlt, hfirstAt⟩ := acceptedAt_take.1 ((honly a).2 rfl)
      rw [List.getElem?_take, if_pos hlt] at ha
      have htwo : FirstTwo s candidates a p :=
        ⟨hlt, hfirstAt, ⟨_, hc, haccepts⟩, fun q hq hat => (honly q).1 (acceptedAt_take.2 ⟨hq, hat⟩)⟩
      refine Or.inr (Or.inl ⟨a, p, first, second, rfl, htwo, ha, hc, fun r himpostor => ?_⟩)
      refine Nat.lt_of_le_of_ne (hfirst r himpostor) ?_
      rintro rfl
      exact not_acceptedAt_of_impostorAt himpostor htwo.atSecond

/-- **Which fault a selection reports**, for every interceptor and all candidates:

    * that a candidate is no config, exactly if some impostor stands before the second candidate that
      is meant for the interceptor; the first impostor is named;
    * that several configs are meant for the interceptor, exactly if the second one stands before every
      impostor; the first and the second are named, in that order;
    * otherwise it gives the only candidate that is meant for the interceptor, or none. -/
theorem select_precedence (s : Signature) (candidates : List (Component ρ)) :
    ((∃ n, select s candidates = .error (.notAConfig n)) ↔
      ∃ p, ImpostorAt candidates p ∧ ∀ a b, FirstTwo s candidates a b → p < b) ∧
    (∀ n, select s candidates = .error (.notAConfig n) →
      ∃ p c, candidates[p]? = some c ∧ c.config? = none ∧
        (∀ r, ImpostorAt candidates r → p ≤ r) ∧ n = c.typeName) ∧
    ((∃ i m n, select s candidates = .error (.ambiguous i m n)) ↔
      ∃ a b, FirstTwo s candidates a b ∧ ∀ r, ImpostorAt candidates r → b < r) ∧
    (∀ i m n, select s candidates = .error (.ambiguous i m n) →
      ∃ a b first second, FirstTwo s candidates a b ∧ candidates[a]? = some (.config first) ∧
        candidates[b]? = some (.config second) ∧
        i = s.typeName ∧ m = first.typeName ∧ n = second.typeName) ∧
    ((¬ ∃ p, ImpostorAt candidates p ∧ ∀ a b, FirstTwo s candidates a b → p < b) →
      (¬ ∃ a b, FirstTwo s candidates a b ∧ ∀ r, ImpostorAt candidates r → b < r) →
      ∃ config, select s candidates = .ok config ∧ Chosen s candidates config) := by
  rcases select_cases s candidates with
    ⟨p, c, hselect, hc, hnone, hfirst, hbefore⟩ |
    ⟨a, b, first, second, hselect, htwo, ha, hb, hafter⟩ | ⟨config, hselect, hall, hchosen⟩
  · have himpostor : ImpostorAt candidates p := ⟨c, hc, hnone⟩
    rw [hselect]
    refine ⟨iff_of_true ⟨_, rfl⟩ ⟨p, himpostor, hbefore⟩, fun n hn => ?_, iff_of_false ?_ ?_,
      fun i m n h => ?_, fun hno => absurd ⟨p, himpostor, hbefore⟩ hno⟩
    · cases hn
      exact ⟨p, c, hc, hnone, hfirst, rfl⟩
    · rintro ⟨i, m, n, h⟩
      cases h
    · rintro ⟨a, b, htwo, hafter⟩
      exact Nat.lt_asymm (hbefore a b htwo) (hafter p himpostor)
    · cases h
  · rw [hselect]
    refine ⟨iff_of_false ?_ ?_, fun n hn => ?_, iff_of_true ⟨_, _, _, rfl⟩ ⟨a, b, htwo, hafter⟩,
      fun i m n h => ?_, fun _ hno => absurd ⟨a, b, htwo, hafter⟩ hno⟩
    · rintro ⟨n, hn⟩
      cases hn
    · rintro ⟨p, himpostor, hbefore⟩
      exact Nat.lt_asymm (hbefore a b htwo) (hafter p himpostor)
    · cases hn
    · cases h
      exact ⟨a, b, first, second, htwo, ha, hb, rfl, rfl, rfl⟩
  · rw [hselect]
    refine ⟨iff_of_false ?_ ?_, fun n hn => ?_, iff_of_false ?_ ?_, fun i m n h => ?_,
      fun _ _ => ⟨config, rfl, hchosen⟩⟩
    · rintro ⟨n, hn⟩
      cases hn
    · rintro ⟨p, himpostor, -⟩
      exact hall p himpostor
    · cases hn
    · rintro ⟨i, m, n, h⟩
      cases h
    · rintro ⟨a, b, htwo, -⟩
      exact Nat.ne_of_lt htwo.lt (hchosen.eq htwo.atFirst htwo.atSecond)
    · cases h

/-- The impostor between two overrides is reported, for it stands before the second one. -/
example :
    select (ρ := Unit) (.opener ⟨[], []⟩)
        [.config (.override ⟨[], []⟩), .neither "str", .config (.override ⟨[], []⟩), .neither "int"]
      = .error (.notAConfig "str") := rfl

end OpenerPolicy
