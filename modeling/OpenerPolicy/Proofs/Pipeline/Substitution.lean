/-
  File:      OpenerPolicy/Proofs/Pipeline/Substitution.lean
  Subject:   AN OVERRIDE IS A SUBSTITUTION.

  An override among the configs of a handler acts as if the pipeline had been built with its
  directives: the opener interceptors of the pipeline become the override's own, and their configs
  vanish. Nothing else can be told apart by anyone who takes part, in any phase and on any writer.

  * `Interceptor.substituted`, `Binding.substituted` -- the substitution;
  * `bindAll_substituted` -- what is bound after it;
  * `act_substituted`, `runFrom_substituted`, `callsFrom_substituted` -- one call, and one phase;
  * `Turn`, `runTurns` -- phases one after the other, on several writers;
  * **`override_is_substitution`** -- the same for the whole: binding, and every sequence of phases.
-/
import OpenerPolicy.Pipeline.Program
import OpenerPolicy.Proofs.Pipeline.Phases
import OpenerPolicy.Proofs.Pipeline.Selection

namespace OpenerPolicy

variable {ρ : Type}

/-! ## 1. The substitution -/

/-- An interceptor after the substitution: an opener interceptor has the directives given. -/
def Interceptor.substituted (d : Directives) : Interceptor ρ → Interceptor ρ
  | .opener _ => .opener d
  | .foreign f => .foreign f

/-- A binding after the substitution: an opener interceptor has no config any more. -/
def Binding.substituted (d : Directives) (b : Binding ρ) : Binding ρ :=
  match b.interceptor with
  | .opener _ => ⟨.opener d, none⟩
  | .foreign f => ⟨.foreign f, b.config⟩

/-- Whether it is an interceptor of another kind that is called. -/
def Call.isForeign (c : Call ρ) : Bool :=
  match c.binding.interceptor with
  | .opener _ => false
  | .foreign _ => true

/-- A call after the substitution. -/
def Call.substituted (d : Directives) (c : Call ρ) : Call ρ :=
  { c with binding := c.binding.substituted d }

/-- An opener interceptor is bound to the override. -/
def Binding.Overridden (d : Directives) (b : Binding ρ) : Prop :=
  ∀ own, b.interceptor = .opener own → b.config = some (.override d)

theorem interceptor_substituted (d : Directives) (b : Binding ρ) :
    (b.substituted d).interceptor = b.interceptor.substituted d := by
  obtain ⟨interceptor, config⟩ := b
  cases interceptor <;> rfl

theorem isForeign_substituted (d : Directives) (c : Call ρ) :
    (c.substituted d).isForeign = c.isForeign := by
  obtain ⟨_, _, _, _, ⟨interceptor, config⟩, _⟩ := c
  cases interceptor <;> rfl

/-- What other interceptors are told does not change. -/
theorem substituted_of_isForeign {d : Directives} {c : Call ρ} (h : c.isForeign = true) :
    c.substituted d = c := by
  obtain ⟨_, _, _, _, ⟨interceptor, config⟩, _⟩ := c
  cases interceptor with
  | opener own => cases h
  | foreign f => rfl

/-- The calls that other interceptors receive are the same. -/
theorem filter_substituted (d : Directives) (calls : List (Call ρ)) :
    (calls.map (Call.substituted d)).filter Call.isForeign = calls.filter Call.isForeign := by
  induction calls with
  | nil => rfl
  | cons c rest ih =>
    rw [List.map_cons, List.filter_cons, List.filter_cons, ih, isForeign_substituted]
    by_cases hc : c.isForeign = true
    · rw [if_pos hc, if_pos hc, substituted_of_isForeign hc]
    · rw [if_neg hc, if_neg hc]

/-! ## 2. Binding -/

section Bound

variable {d : Directives} {first rest : List (Component ρ)}

theorem mem_with_override {c : Component ρ} (h : c ∈ first ++ rest) :
    c ∈ first ++ .config (.override d) :: rest :=
  ((List.sublist_cons_self _ rest).append_left first).subset h

/-- An interceptor of another kind is given the same config without the override. -/
theorem select_foreign {typeName label : String} {config : Option Config}
    (h : select (.foreign typeName label) (first ++ .config (.override d) :: rest) = .ok config) :
    select (.foreign typeName label) (first ++ rest) = .ok config := by
  obtain ⟨hconfigs, hmeant⟩ := (select_eq_ok_iff _ _ _).1 h
  -- an override is meant for opener interceptors alone, so it is passed over here
  have hno : (Config.override d).accepts (.foreign typeName label) = false := rfl
  rw [meantFor_append, meantFor_config, hno, if_neg Bool.false_ne_true, ← meantFor_append] at hmeant
  exact (select_eq_ok_iff _ _ _).2 ⟨fun c hc => hconfigs c (mem_with_override hc), hmeant⟩

/-- An opener interceptor is given the override, and nothing else is there for the override's own
    directives. -/
theorem select_opener {own : Directives} {config : Option Config}
    (hothers : ∀ c ∈ first ++ rest, c.accepts (.opener d) = false)
    (h : select (.opener own) (first ++ .config (.override d) :: rest) = .ok config) :
    config = some (.override d) ∧ select (.opener d) (first ++ rest) = .ok none := by
  obtain ⟨hconfigs, hmeant⟩ := (select_eq_ok_iff _ _ _).1 h
  have hyes : (Config.override d).accepts (.opener own) = true := rfl
  rw [meantFor_append, meantFor_config, hyes, if_pos rfl] at hmeant
  constructor
  · have hmem : Config.override d ∈ config.toList := by
      rw [← hmeant]
      exact List.mem_append_right _ List.mem_cons_self
    exact Option.mem_toList.1 hmem
  · exact (select_eq_ok_iff _ _ _).2
      ⟨fun c hc => hconfigs c (mem_with_override hc), meantFor_eq_nil hothers⟩

/-- **What is bound after the substitution**: the same, with the override in place of the opener
    interceptors it was bound to. -/
theorem bindAll_substituted {interceptors : List (Interceptor ρ)} {bindings : List (Binding ρ)}
    (hothers : ∀ c ∈ first ++ rest, c.accepts (.opener d) = false)
    (h : (bindAll (first ++ .config (.override d) :: rest) interceptors).1 = .ok bindings) :
    (bindAll (first ++ rest) (interceptors.map (Interceptor.substituted d))).1
        = .ok (bindings.map (Binding.substituted d)) ∧
      ∀ b ∈ bindings, b.Overridden d := by
  obtain ⟨hmap, hselect⟩ := (bindAll_eq_ok_iff _ _ _).1 h
  constructor
  · refine (bindAll_eq_ok_iff _ _ _).2 ⟨?_, fun b' hb' => ?_⟩
    · rw [← hmap, List.map_map, List.map_map]
      exact List.map_congr_left fun b _ => interceptor_substituted d b
    · obtain ⟨⟨interceptor, config⟩, hb, rfl⟩ := List.mem_map.1 hb'
      cases interceptor with
      | opener own => exact (select_opener hothers (hselect _ hb)).2
      | foreign f => exact select_foreign (hselect _ hb)
  · rintro ⟨interceptor, config⟩ hb own rfl
    exact (select_opener hothers (hselect _ hb)).1

end Bound

/-! ## 3. One phase -/

section Phases

variable {d : Directives}

/-- **One call**: the override's own interceptor does what an overridden one does. -/
theorem act_substituted {b : Binding ρ} (h : b.Overridden d) (phase : Phase) (request : Request)
    (reply : Option ρ) :
    (b.substituted d).interceptor.act phase request reply (b.substituted d).config
      = b.interceptor.act phase request reply b.config := by
  obtain ⟨interceptor, config⟩ := b
  cases interceptor with
  | foreign f => rfl
  | opener own =>
    -- its own directives are never looked at once it is bound to an override
    obtain rfl : config = some (.override d) := h own rfl
    cases phase <;> rfl

variable {bindings : List (Binding ρ)}

/-- **One phase** ends the same, with the same writer. -/
theorem runFrom_substituted (h : ∀ b ∈ bindings, b.Overridden d) (phase : Phase) (request : Request)
    (reply : Option ρ) (position : Nat) (w : Writer) :
    (runFrom phase request reply position (bindings.map (Binding.substituted d)) w).outcome
        = (runFrom phase request reply position bindings w).outcome ∧
      (runFrom phase request reply position (bindings.map (Binding.substituted d)) w).writer
        = (runFrom phase request reply position bindings w).writer := by
  induction bindings generalizing position w with
  | nil => exact ⟨rfl, rfl⟩
  | cons b rest ih =>
    obtain ⟨hb, hrest⟩ := List.forall_mem_cons.1 h
    rw [List.map_cons, runFrom, runFrom, act_substituted hb]
    rcases b.interceptor.act phase request reply b.config w with ⟨f | written, w'⟩
    · exact ⟨rfl, rfl⟩
    · cases written with
      | false => exact ih hrest (position + 1) w'
      | true => exact ⟨rfl, rfl⟩

/-- **The calls of a phase** are the same, up to the substitution. -/
theorem callsFrom_substituted (h : ∀ b ∈ bindings, b.Overridden d) (phase : Phase)
    (request : Request) (reply : Option ρ) (position : Nat) (w : Writer) :
    callsFrom phase request reply position (bindings.map (Binding.substituted d)) w
      = (callsFrom phase request reply position bindings w).map (Call.substituted d) := by
  induction bindings generalizing position w with
  | nil => rfl
  | cons b rest ih =>
    obtain ⟨hb, hrest⟩ := List.forall_mem_cons.1 h
    rw [List.map_cons, callsFrom, callsFrom, act_substituted hb, List.map_cons]
    rcases b.interceptor.act phase request reply b.config w with ⟨f | written, w'⟩
    · rfl
    · cases written with
      | false => exact congrArg (_ :: ·) (ih hrest (position + 1) w')
      | true => rfl

end Phases

/-! ## 4. Sequences of phases -/

/-- A phase that is to be run, on the writer with a number. -/
structure Turn (ρ : Type) where
  phase : Phase
  request : Request
  reply : Option ρ
  writer : Nat

/-- What can be seen of a phase: how it ended, the writer afterwards and at each call, and the calls
    that other interceptors received. -/
structure TurnResult (ρ : Type) where
  outcome : Except Fault Bool
  writer : Writer
  handed : List Writer
  received : List (Call ρ)

/-- **A phase on one of several writers.** -/
def runTurn (bindings : List (Binding ρ)) (writers : Nat → Writer) (t : Turn ρ) : TurnResult ρ :=
  let run := runPhase t.phase bindings t.request t.reply (writers t.writer)
  let calls := callsFrom t.phase t.request t.reply 0 bindings (writers t.writer)
  ⟨run.outcome, run.writer, calls.map Call.writer, calls.filter Call.isForeign⟩

/-- **Phases one after the other**; each finds the writers as those before it left them, those with a
    fault included. -/
def runTurns (bindings : List (Binding ρ)) : (Nat → Writer) → List (Turn ρ) → List (TurnResult ρ)
  | _, [] => []
  | writers, t :: rest =>
    let result := runTurn bindings writers t
    result :: runTurns bindings (fun n => if n = t.writer then result.writer else writers n) rest

section Sequences

variable {d : Directives} {bindings : List (Binding ρ)}

theorem runTurn_substituted (h : ∀ b ∈ bindings, b.Overridden d) (writers : Nat → Writer)
    (t : Turn ρ) :
    runTurn (bindings.map (Binding.substituted d)) writers t = runTurn bindings writers t := by
  have hrun := runFrom_substituted h t.phase t.request t.reply 0 (writers t.writer)
  have hwriters : ((callsFrom t.phase t.request t.reply 0 bindings (writers t.writer)).map
      (Call.substituted d)).map Call.writer = _ := List.map_map
  rw [runTurn, runTurn, runPhase, runPhase, hrun.1, hrun.2, callsFrom_substituted h, hwriters,
    filter_substituted]
  rfl

theorem runTurns_substituted (h : ∀ b ∈ bindings, b.Overridden d) (writers : Nat → Writer)
    (turns : List (Turn ρ)) :
    runTurns (bindings.map (Binding.substituted d)) writers turns = runTurns bindings writers turns := by
  induction turns generalizing writers with
  | nil => rfl
  | cons t rest ih =>
    rw [runTurns, runTurns, runTurn_substituted h, ih]

end Sequences

/-! ## 5. The override -/

/-- **An override is a substitution.** Where one override is among the configs, no other config is
    meant for its directives, and the configs can be bound: without the override they can be bound to
    the pipeline with the override's own interceptor in place of each opener interceptor, and every
    sequence of phases, on any writers, gives the same results, the same faults, the same writers
    before and after each call, and the same calls of the other interceptors, with the same
    configs. -/
theorem override_is_substitution (interceptors : List (Interceptor ρ))
    (first rest : List (Component ρ)) (d : Directives) (bindings : List (Binding ρ))
    (hothers : ∀ c ∈ first ++ rest, c.accepts (.opener d) = false)
    (hbind : (bindAll (first ++ .config (.override d) :: rest) interceptors).1 = .ok bindings) :
    ∃ substituted,
      (bindAll (first ++ rest) (interceptors.map (Interceptor.substituted d))).1 = .ok substituted ∧
      ∀ writers turns, runTurns substituted writers turns = runTurns bindings writers turns := by
  obtain ⟨hbound, hoverridden⟩ := bindAll_substituted hothers hbind
  exact ⟨_, hbound, runTurns_substituted hoverridden⟩

/-- A pipeline with an interceptor of another kind and two opener interceptors, of which the second
    always fails. -/
def cachedPipeline : List (Interceptor ρ) :=
  [.owner "CacheInterceptor" "CacheConfig" "" "Cache-Control" "no-store",
    .opener ⟨["same-origin"], ["unsafe-none"]⟩, .opener ⟨[], ["same-origin"]⟩]

/-- A config that is meant for the interceptor of the other kind. -/
def cacheConfig : Component ρ :=
  .config (.foreign "CacheConfig" (.str "max-age=60") fun s => s.typeName = "CacheInterceptor")

/-- The override of a handler with another config before and one after it, which nothing accepts. -/
theorem popups_are_substituted :
    ∃ bindings substituted : List (Binding Unit),
      (bindAll [cacheConfig, .config (.override ⟨["same-origin-allow-popups"], []⟩),
        .config (.foreign "Unused" .null fun _ => false)] cachedPipeline).1 = .ok bindings ∧
      (bindAll [cacheConfig, .config (.foreign "Unused" .null fun _ => false)]
        [.owner "CacheInterceptor" "CacheConfig" "" "Cache-Control" "no-store",
          .opener ⟨["same-origin-allow-popups"], []⟩,
          .opener ⟨["same-origin-allow-popups"], []⟩]).1 = .ok substituted ∧
      ∀ writers turns, runTurns substituted writers turns = runTurns bindings writers turns := by
  let unused : Component Unit := .config (.foreign "Unused" .null fun _ => false)
  have hothers : ∀ c ∈ [cacheConfig] ++ [unused],
      c.accepts (.opener ⟨["same-origin-allow-popups"], []⟩) = false := by decide
  obtain ⟨substituted, hbound, hruns⟩ := override_is_substitution cachedPipeline [cacheConfig]
    [unused] ⟨["same-origin-allow-popups"], []⟩ _ hothers rfl
  exact ⟨_, substituted, rfl, hbound, hruns⟩

end OpenerPolicy
