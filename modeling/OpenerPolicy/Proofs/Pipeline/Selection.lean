/-
  File:      OpenerPolicy/Proofs/Pipeline/Selection.lean
  Subject:   WHICH CONFIG AN INTERCEPTOR IS BOUND TO.

  An interceptor is bound to the one config that is meant for it. That there is no other and that all
  candidates are configs is what makes the selection succeed. A selection stops at the first thing that
  is wrong with the candidates, but whether there is one does not depend on their order.

  * `meantFor` -- the configs among candidates that are meant for an interceptor, in order;
  * **`select_eq_ok_iff`** -- a selection succeeds exactly if all candidates are configs and at most
    one is meant for the interceptor, which it then gives;
  * **`bindAll_eq_ok_iff`** -- binding succeeds exactly if the selection does for each interceptor;
  * `AcceptedAt`, `Chosen` -- the positions of candidates that are meant for an interceptor, and the
    config at the only one; `two_le_length_meantFor`, `chosen_of_select`;
  * `select_of_perm`, `bindAll_of_perm` -- the order of the candidates makes no difference;
  * **`bindAll_outcome`** -- when binding fails, and to which configs it binds.
-/
import OpenerPolicy.Pipeline.Binding

namespace OpenerPolicy

variable {ρ : Type}

/-- The component as a config, if it is one. -/
def Component.config? : Component ρ → Option Config
  | .config c => some c
  | _ => none

/-- **The configs that are meant for an interceptor**, in the order of the candidates. -/
def meantFor (s : Signature) (candidates : List (Component ρ)) : List Config :=
  (candidates.filterMap Component.config?).filter (·.accepts s)

theorem meantFor_append (s : Signature) (first second : List (Component ρ)) :
    meantFor s (first ++ second) = meantFor s first ++ meantFor s second := by
  rw [meantFor, List.filterMap_append, List.filter_append]
  rfl

theorem meantFor_config (s : Signature) (c : Config) (rest : List (Component ρ)) :
    meantFor s (.config c :: rest) = if c.accepts s then c :: meantFor s rest else meantFor s rest := by
  show (c :: rest.filterMap Component.config?).filter (·.accepts s) = _
  rw [List.filter_cons]
  rfl

/-- The configs that are meant for an interceptor are the candidates that accept it. -/
theorem mem_meantFor_iff {s : Signature} {candidates : List (Component ρ)} {config : Config} :
    config ∈ meantFor s candidates ↔
      Component.config config ∈ candidates ∧ config.accepts s = true := by
  rw [meantFor, List.mem_filter, List.mem_filterMap]
  refine and_congr_left fun _ => ⟨?_, fun h => ⟨_, h, rfl⟩⟩
  rintro ⟨c, hc, hsome⟩
  cases c with
  | interceptor i => cases hsome
  | neither typeName => cases hsome
  | config own =>
    obtain rfl := Option.some.inj hsome
    exact hc

/-- Nothing is meant for an interceptor that no candidate accepts. -/
theorem meantFor_eq_nil {s : Signature} {candidates : List (Component ρ)}
    (h : ∀ c ∈ candidates, c.accepts s = false) : meantFor s candidates = [] := by
  rw [List.eq_nil_iff_forall_not_mem]
  intro config hconfig
  obtain ⟨hc, haccepts⟩ := mem_meantFor_iff.1 hconfig
  have hno : config.accepts s = false := h (.config config) hc
  rw [hno] at haccepts
  exact Bool.false_ne_true haccepts

/-- A selection that goes on with what was chosen before. -/
theorem selectFrom_eq_ok_iff (s : Signature) (chosen : Option Config)
    (candidates : List (Component ρ)) (config : Option Config) :
    selectFrom s chosen candidates = .ok config ↔
      (∀ c ∈ candidates, c.config?.isSome = true) ∧
        chosen.toList ++ meantFor s candidates = config.toList := by
  induction candidates generalizing chosen with
  | nil =>
    rw [selectFrom, show meantFor s ([] : List (Component ρ)) = [] from rfl, List.append_nil]
    constructor
    · intro h
      obtain rfl := Except.ok.inj h
      exact ⟨fun c hc => absurd hc List.not_mem_nil, rfl⟩
    · rintro ⟨-, h⟩
      cases chosen <;> cases config <;> simp_all
  | cons candidate rest ih =>
    cases candidate with
    | interceptor i =>
      refine ⟨nofun, fun h => ?_⟩
      exact absurd (h.1 _ List.mem_cons_self) Bool.false_ne_true
    | neither typeName =>
      refine ⟨nofun, fun h => ?_⟩
      exact absurd (h.1 _ List.mem_cons_self) Bool.false_ne_true
    | config c =>
      have hforall : (∀ x ∈ Component.config c :: rest, x.config?.isSome = true) ↔
          ∀ x ∈ rest, x.config?.isSome = true := by
        rw [List.forall_mem_cons]
        exact and_iff_right rfl
      rw [hforall, meantFor_config, selectFrom]
      simp only [Component.asConfig]
      by_cases hc : c.accepts s = true
      · rw [if_pos hc, if_pos hc]
        cases chosen with
        | none => exact ih (some c)
        | some first =>
          -- the second config that is meant for the interceptor
          refine ⟨nofun, fun h => ?_⟩
          have hlength := congrArg List.length h.2
          cases config <;> simp at hlength
      · rw [if_neg hc, if_neg hc]
        exact ih chosen

/-- **A selection succeeds** exactly if every candidate is a config and it gives the only one that is
    meant for the interceptor, or none if there is none. -/
theorem select_eq_ok_iff (s : Signature) (candidates : List (Component ρ)) (config : Option Config) :
    select s candidates = .ok config ↔
      (∀ c ∈ candidates, c.config?.isSome = true) ∧ meantFor s candidates = config.toList :=
  selectFrom_eq_ok_iff s none candidates config

/-- **Binding succeeds** exactly if each interceptor is bound, in order, to the config selected for
    it. -/
theorem bindAll_eq_ok_iff (candidates : List (Component ρ)) (interceptors : List (Interceptor ρ))
    (bindings : List (Binding ρ)) :
    (bindAll candidates interceptors).1 = .ok bindings ↔
      bindings.map Binding.interceptor = interceptors ∧
        ∀ b ∈ bindings, select b.interceptor.signature candidates = .ok b.config := by
  induction interceptors generalizing bindings with
  | nil =>
    constructor
    · intro h
      obtain rfl := Except.ok.inj h
      exact ⟨rfl, fun b hb => absurd hb List.not_mem_nil⟩
    · rintro ⟨h, -⟩
      obtain rfl := List.map_eq_nil_iff.1 h
      rfl
  | cons i rest ih =>
    rw [bindAll]
    constructor
    · intro h
      cases hs : select i.signature candidates with
      | error f =>
        rw [hs] at h
        cases h
      | ok config =>
        rw [hs] at h
        rcases hrest : bindAll candidates rest with ⟨f | more, notices⟩
        · rw [hrest] at h
          cases h
        · rw [hrest] at h
          obtain rfl := Except.ok.inj h
          obtain ⟨hmap, hmore⟩ := (ih more).1 (by rw [hrest])
          refine ⟨by rw [List.map_cons, hmap], ?_⟩
          rw [List.forall_mem_cons]
          exact ⟨hs, hmore⟩
    · rintro ⟨hmap, hall⟩
      cases bindings with
      | nil => cases hmap
      | cons b more =>
        obtain ⟨rfl, htail⟩ := List.cons.inj hmap
        obtain ⟨hb, hmore⟩ := List.forall_mem_cons.1 hall
        have hrest := (ih more).2 ⟨htail, hmore⟩
        rcases h : bindAll candidates rest with ⟨outcome, notices⟩
        rw [h] at hrest
        obtain rfl : outcome = .ok more := hrest
        rw [hb]
        rfl

/-! ## 2. Positions among the candidates -/

/-- **The candidate at a position is meant for an interceptor.** -/
def AcceptedAt (s : Signature) (candidates : List (Component ρ)) (position : Nat) : Prop :=
  ∃ c, candidates[position]? = some c ∧ c.accepts s = true

/-- **The config at the only position that is meant for an interceptor**, or none where there is no
    such position. -/
def Chosen (s : Signature) (candidates : List (Component ρ)) : Option Config → Prop
  | none => ∀ p, ¬ AcceptedAt s candidates p
  | some config =>
    ∃ p, candidates[p]? = some (.config config) ∧ ∀ q, AcceptedAt s candidates q ↔ q = p

theorem acceptedAt_zero (s : Signature) (c : Component ρ) (rest : List (Component ρ)) :
    AcceptedAt s (c :: rest) 0 ↔ c.accepts s = true := by
  constructor
  · rintro ⟨c', hc', ha⟩
    obtain rfl := Option.some.inj hc'
    exact ha
  · intro ha
    exact ⟨c, rfl, ha⟩

/-- What accepts an interceptor is a config. -/
theorem exists_config_of_accepts {s : Signature} {c : Component ρ} (h : c.accepts s = true) :
    ∃ config, c = .config config ∧ config.accepts s = true := by
  cases c with
  | config config => exact ⟨config, rfl, h⟩
  | interceptor i => cases h
  | neither typeName => cases h

theorem meantFor_cons_of_not_accepts {s : Signature} {c : Component ρ} (h : ¬ c.accepts s = true)
    (rest : List (Component ρ)) : meantFor s (c :: rest) = meantFor s rest := by
  cases c with
  | config config => exact (meantFor_config s config rest).trans (if_neg h)
  | interceptor i => rfl
  | neither typeName => rfl

theorem meantFor_ne_nil_iff (s : Signature) (candidates : List (Component ρ)) :
    meantFor s candidates ≠ [] ↔ ∃ p, AcceptedAt s candidates p := by
  constructor
  · intro hne
    obtain ⟨config, hmem⟩ := List.exists_mem_of_ne_nil _ hne
    obtain ⟨hc, haccepts⟩ := mem_meantFor_iff.1 hmem
    obtain ⟨p, hp⟩ := List.mem_iff_getElem?.1 hc
    exact ⟨p, .config config, hp, haccepts⟩
  · rintro ⟨p, c, hp, haccepts⟩
    obtain ⟨config, rfl, hconfig⟩ := exists_config_of_accepts haccepts
    exact List.ne_nil_of_mem (mem_meantFor_iff.2 ⟨List.mem_of_getElem? hp, hconfig⟩)

/-- **Two configs are meant for an interceptor exactly if two positions are.** -/
theorem two_le_length_meantFor (s : Signature) (candidates : List (Component ρ)) :
    2 ≤ (meantFor s candidates).length ↔
      ∃ p q, p < q ∧ AcceptedAt s candidates p ∧ AcceptedAt s candidates q := by
  induction candidates with
  | nil =>
    refine ⟨fun h => absurd h (Nat.not_succ_le_zero 1), ?_⟩
    rintro ⟨p, q, -, ⟨c, hc, -⟩, -⟩
    cases hc
  | cons c rest ih =>
    by_cases hc : c.accepts s = true
    · -- the first candidate is one of the two, so another one is enough
      have hlength : (meantFor s (c :: rest)).length = (meantFor s rest).length + 1 := by
        obtain ⟨config, rfl, hconfig⟩ := exists_config_of_accepts hc
        rw [meantFor_config, if_pos hconfig, List.length_cons]
      have hrest : 2 ≤ (meantFor s (c :: rest)).length ↔ meantFor s rest ≠ [] := by
        rw [hlength, ← List.length_pos_iff]
        omega
      rw [hrest, meantFor_ne_nil_iff]
      constructor
      · rintro ⟨p, hp⟩
        exact ⟨0, p + 1, Nat.succ_pos p, (acceptedAt_zero s c rest).2 hc, hp⟩
      · rintro ⟨p, q, hlt, -, hq⟩
        obtain ⟨q', rfl⟩ := Nat.exists_eq_succ_of_ne_zero (Nat.ne_of_gt (Nat.zero_lt_of_lt hlt))
        exact ⟨q', hq⟩
    · rw [meantFor_cons_of_not_accepts hc, ih]
      constructor
      · rintro ⟨p, q, hlt, hp, hq⟩
        exact ⟨p + 1, q + 1, Nat.succ_lt_succ hlt, hp, hq⟩
      · rintro ⟨p, q, hlt, hp, hq⟩
        cases p with
        | zero => exact absurd ((acceptedAt_zero s c rest).1 hp) hc
        | succ p =>
          obtain ⟨q', rfl⟩ := Nat.exists_eq_succ_of_ne_zero (Nat.ne_of_gt (Nat.zero_lt_of_lt hlt))
          exact ⟨p, q', Nat.lt_of_succ_lt_succ hlt, hp, hq⟩

/-- **A selection that succeeds gives the config at the only position**, if there is one. -/
theorem chosen_of_select {s : Signature} {candidates : List (Component ρ)} {config : Option Config}
    (h : select s candidates = .ok config) : Chosen s candidates config := by
  obtain ⟨-, hmeant⟩ := (select_eq_ok_iff s candidates config).1 h
  cases config with
  | none =>
    intro p hp
    exact (meantFor_ne_nil_iff s candidates).2 ⟨p, hp⟩ hmeant
  | some config =>
    have hne : meantFor s candidates ≠ [] := by
      rw [hmeant]
      exact List.cons_ne_nil _ _
    obtain ⟨p, hp⟩ := (meantFor_ne_nil_iff s candidates).1 hne
    have honly : ∀ q, AcceptedAt s candidates q → q = p := by
      intro q hq
      refine Classical.byContradiction fun hpq => ?_
      have htwo : 2 ≤ (meantFor s candidates).length := by
        rw [two_le_length_meantFor]
        rcases Nat.lt_or_gt_of_ne hpq with hlt | hlt
        · exact ⟨q, p, hlt, hq, hp⟩
        · exact ⟨p, q, hlt, hp, hq⟩
      rw [hmeant] at htwo
      exact absurd htwo (Nat.not_succ_le_self 1)
    obtain ⟨c, hc, haccepts⟩ := hp
    obtain ⟨own, rfl, hown⟩ := exists_config_of_accepts haccepts
    have hmem := mem_meantFor_iff.2 ⟨List.mem_of_getElem? hc, hown⟩
    rw [hmeant] at hmem
    obtain rfl := List.mem_singleton.1 hmem
    exact ⟨p, hc, fun q => ⟨honly q, fun hq => hq ▸ ⟨.config own, hc, haccepts⟩⟩⟩

/-! ## 3. When binding fails -/

/-- What fails does not succeed, and the other way round. -/
theorem exists_error_iff {ε α : Type} (result : Except ε α) :
    (∃ f, result = .error f) ↔ ¬ ∃ a, result = .ok a := by
  cases result with
  | ok a => exact iff_of_false (by rintro ⟨f, hf⟩; cases hf) fun h => h ⟨a, rfl⟩
  | error f => exact iff_of_true ⟨f, rfl⟩ (by rintro ⟨a, ha⟩; cases ha)

/-- A selection fails exactly if a candidate is no config or two positions are meant for the
    interceptor. -/
theorem select_eq_error_iff (s : Signature) (candidates : List (Component ρ)) :
    (∃ f, select s candidates = .error f) ↔
      (∃ c ∈ candidates, c.config? = none) ∨
        ∃ p q, p < q ∧ AcceptedAt s candidates p ∧ AcceptedAt s candidates q := by
  rw [exists_error_iff, ← two_le_length_meantFor]
  constructor
  · intro hnone
    by_cases hall : ∀ c ∈ candidates, c.config?.isSome = true
    · right
      match hm : meantFor s candidates with
      | [] => exact absurd ⟨none, (select_eq_ok_iff s candidates none).2 ⟨hall, hm⟩⟩ hnone
      | [config] =>
        exact absurd ⟨some config, (select_eq_ok_iff s candidates (some config)).2 ⟨hall, hm⟩⟩ hnone
      | _ :: _ :: rest =>
        rw [List.length_cons, List.length_cons]
        omega
    · left
      simpa using hall
  · rintro hwrong ⟨config, hok⟩
    obtain ⟨hall, hmeant⟩ := (select_eq_ok_iff s candidates config).1 hok
    rcases hwrong with ⟨c, hc, hnone⟩ | htwo
    · have hsome := hall c hc
      rw [hnone] at hsome
      cases hsome
    · rw [hmeant] at htwo
      cases config with
      | none => exact absurd htwo (Nat.not_succ_le_zero 1)
      | some config => exact absurd htwo (Nat.not_succ_le_self 1)

/-- Binding succeeds with some bindings exactly if the selection does for each interceptor. -/
theorem bindAll_isOk_iff (candidates : List (Component ρ)) (interceptors : List (Interceptor ρ)) :
    (∃ bindings, (bindAll candidates interceptors).1 = .ok bindings) ↔
      ∀ i ∈ interceptors, ∃ config, select i.signature candidates = .ok config := by
  simp only [bindAll_eq_ok_iff]
  constructor
  · rintro ⟨bindings, rfl, hall⟩ i hi
    obtain ⟨b, hb, rfl⟩ := List.mem_map.1 hi
    exact ⟨b.config, hall b hb⟩
  · intro h
    induction interceptors with
    | nil => exact ⟨[], rfl, fun b hb => absurd hb List.not_mem_nil⟩
    | cons i rest ih =>
      obtain ⟨⟨config, hconfig⟩, hrest⟩ := List.forall_mem_cons.1 h
      obtain ⟨bindings, hmap, hall⟩ := ih hrest
      refine ⟨⟨i, config⟩ :: bindings, by rw [List.map_cons, hmap], ?_⟩
      rw [List.forall_mem_cons]
      exact ⟨hconfig, hall⟩

/-- **The order of the candidates makes no difference to a selection that succeeds.** -/
theorem select_of_perm {candidates other : List (Component ρ)} (h : candidates.Perm other)
    (s : Signature) (config : Option Config) :
    select s candidates = .ok config ↔ select s other = .ok config := by
  have hmeant : (meantFor s candidates).Perm (meantFor s other) := (h.filterMap _).filter _
  rw [select_eq_ok_iff, select_eq_ok_iff]
  refine and_congr ⟨fun hall c hc => hall c (h.mem_iff.2 hc), fun hall c hc => hall c (h.mem_iff.1 hc)⟩ ?_
  -- at most one config is meant for the interceptor, so there is nothing to reorder
  cases config with
  | none =>
    show meantFor s candidates = [] ↔ meantFor s other = []
    rw [← List.perm_nil, ← List.perm_nil]
    exact ⟨hmeant.symm.trans, hmeant.trans⟩
  | some config =>
    show meantFor s candidates = [config] ↔ meantFor s other = [config]
    rw [← List.perm_singleton, ← List.perm_singleton]
    exact ⟨hmeant.symm.trans, hmeant.trans⟩

theorem bindAll_of_perm {candidates other : List (Component ρ)} (h : candidates.Perm other)
    (interceptors : List (Interceptor ρ)) (bindings : List (Binding ρ)) :
    (bindAll candidates interceptors).1 = .ok bindings ↔
      (bindAll other interceptors).1 = .ok bindings := by
  rw [bindAll_eq_ok_iff, bindAll_eq_ok_iff]
  simp only [select_of_perm h]

/-- **When binding fails and what it gives otherwise**, for every pipeline and all candidates:

    * it fails exactly if there is an interceptor at all and some candidate is no config, or if two
      positions among the candidates are meant for one interceptor;
    * otherwise each interceptor is bound, in order, to the config at the only position that is meant
      for it, or to none;
    * the order of the candidates changes neither whether it fails nor what it gives. -/
theorem bindAll_outcome (candidates : List (Component ρ)) (interceptors : List (Interceptor ρ)) :
    ((∃ f, (bindAll candidates interceptors).1 = .error f) ↔
      (interceptors ≠ [] ∧ ∃ c ∈ candidates, c.config? = none) ∨
        ∃ i ∈ interceptors, ∃ p q, p < q ∧ AcceptedAt i.signature candidates p ∧
          AcceptedAt i.signature candidates q) ∧
    ((¬ ∃ f, (bindAll candidates interceptors).1 = .error f) →
      ∃ bindings, (bindAll candidates interceptors).1 = .ok bindings ∧
        bindings.map Binding.interceptor = interceptors ∧
        ∀ b ∈ bindings, Chosen b.interceptor.signature candidates b.config) ∧
    (∀ other, candidates.Perm other →
      ((∃ f, (bindAll candidates interceptors).1 = .error f) ↔
        ∃ f, (bindAll other interceptors).1 = .error f) ∧
      ∀ bindings, (bindAll candidates interceptors).1 = .ok bindings ↔
        (bindAll other interceptors).1 = .ok bindings) := by
  refine ⟨?_, fun hnone => ?_, fun other hperm => ⟨?_, bindAll_of_perm hperm interceptors⟩⟩
  · have hfails : (∃ f, (bindAll candidates interceptors).1 = .error f) ↔
        ∃ i ∈ interceptors, ∃ f, select i.signature candidates = .error f := by
      rw [exists_error_iff, bindAll_isOk_iff]
      simp only [exists_error_iff, Classical.not_forall, exists_prop]
    rw [hfails]
    simp only [select_eq_error_iff]
    constructor
    · rintro ⟨i, hi, himpostor | htwo⟩
      · exact Or.inl ⟨List.ne_nil_of_mem hi, himpostor⟩
      · exact Or.inr ⟨i, hi, htwo⟩
    · rintro (⟨hne, himpostor⟩ | ⟨i, hi, htwo⟩)
      · obtain ⟨i, hi⟩ := List.exists_mem_of_ne_nil _ hne
        exact ⟨i, hi, Or.inl himpostor⟩
      · exact ⟨i, hi, Or.inr htwo⟩
  · rw [exists_error_iff, Classical.not_not] at hnone
    obtain ⟨bindings, hok⟩ := hnone
    obtain ⟨hmap, hall⟩ := (bindAll_eq_ok_iff candidates interceptors bindings).1 hok
    exact ⟨bindings, hok, hmap, fun b hb => chosen_of_select (hall b hb)⟩
  · rw [exists_error_iff, exists_error_iff]
    simp only [bindAll_of_perm hperm]

end OpenerPolicy
