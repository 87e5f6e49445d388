/-
  File:      OpenerPolicy/Proofs/Pipeline/Confinement.lean
  Subject:   WHAT OTHER INTERCEPTORS CANNOT DO TO THE OPENER HEADERS.

  An interceptor is confined if all it does to the response goes through the writer's interface. Once
  an opener interceptor has acted, no confined interceptor can change the opener headers in any
  phase, and no second opener interceptor can act without failing.

  * `Interceptor.Confined` -- the interceptors this is about; `holds_run` -- what no operation breaks,
    no program breaks;
  * `Writer.kept` -- claims a header, sets it and keeps its setter; `emit_eq` -- an opener interceptor
    does this twice;
  * `Guarded` -- the INVARIANT: both opener headers are claimed, nobody else has a setter for them,
    and they hold the directives; `guarded_of_emit` -- the opener interceptor brings it about;
    `Guarded.effect`, **`Guarded.runFrom_later`** -- every operation keeps it, and so does every later
    phase;
  * `openings` -- the directives of the opener interceptors that acted before the handler;
    `Settled` -- what they leave behind, which is the invariant of that phase;
    **`Settled.runFrom_before`** -- there is one of them at most, and its directives are guarded.
-/
import OpenerPolicy.Pipeline.Program
import OpenerPolicy.Proofs.Pipeline.Phases
import OpenerPolicy.Proofs.Response.Ownership

namespace OpenerPolicy

/-! ## 1. Confined interceptors -/

section Confined

variable {ρ : Type}

/-- Whether all that an interceptor does goes through the writer's interface. -/
def Foreign.Confined (f : Foreign ρ) : Prop :=
  ∀ phase request reply config, ∃ p : Program, f.act phase request reply config = p.run

/-- **A confined interceptor**: the opener interceptor, or one that acts through the writer's
    interface. -/
def Interceptor.Confined : Interceptor ρ → Prop
  | .opener _ => True
  | .foreign f => f.Confined

end Confined

/-- **What no rule breaks, no program breaks**, whatever it looks at and however it ends. -/
theorem Program.holds_run {P : Writer → Prop}
    (step : ∀ (w w' : Writer) (o : Operation), P w → w.Effect o w' → P w') (p : Program) {w : Writer}
    (h : P w) : P (p.run w).2 := by
  induction p generalizing w with
  | finish written => exact h
  | fail f => exact h
  | look next ih => exact ih w h
  | perform o next ih =>
    rw [Program.run]
    cases hp : w.perform o with
    | ok w' => exact ih none (step w w' o h ((Writer.perform_eq_ok_iff w w' o).1 hp))
    | error f => exact ih (some f) h

/-! ## 2. A header whose setter is kept -/

namespace Writer

/-- **The writer once a header is claimed and set** by a setter that stays with the claim. -/
def kept (w : Writer) (name : String) (values : List String) : Writer :=
  { w with
    header := Header.assign
      ⟨w.header.entries.remove (headerKey name), w.header.claims ++ [headerKey name]⟩
      ⟨headerKey name, name⟩ values }

theorem claims_kept (w : Writer) (name : String) (values : List String) :
    (w.kept name values).header.claims = w.header.claims ++ [headerKey name] :=
  Header.claims_assign _ _ _

theorem values_kept (w : Writer) (name : String) (values : List String) (other : String) :
    (w.kept name values).header.values other
      = if headerKey name = headerKey other then values else w.header.values other := by
  rw [kept, Header.values_assign, Header.values_remove]
  by_cases hk : headerKey name = headerKey other
  · rw [if_pos hk, if_pos hk]
  · rw [if_neg hk, if_neg hk, if_neg hk]

theorem Sound.kept {w : Writer} (hw : w.Sound) {name : String} (hc : headerKey name ∉ w.header.claims)
    (values : List String) : (w.kept name values).Sound where
  header := (hw.header.claim hc).assign rfl values
  setterKeys := hw.setterKeys
  settersClaimed s hs := by
    rw [claims_kept]
    exact List.mem_append_left _ (hw.settersClaimed s hs)

/-- Nobody else has a setter for a header whose setter is kept. -/
theorem Sound.owned_kept {w : Writer} (hw : w.Sound) {name : String}
    (hc : headerKey name ∉ w.header.claims) (values : List String) :
    (w.kept name values).Owned none (headerKey name) values := by
  refine ⟨?_, fun i s hs => ?_, nofun, fun other ho => ?_⟩
  · rw [claims_kept]
    exact List.mem_append_right _ (List.mem_singleton_self _)
  · have hcl := hw.settersClaimed s (List.mem_of_getElem? hs)
    exact ⟨fun hk => absurd (hk ▸ hcl) hc, nofun⟩
  · rw [values_kept, if_pos ho.symm]

/-- Another header stays owned meanwhile. -/
theorem Owned.kept {w : Writer} {key : String} {own : List String} (h : w.Owned none key own)
    {name : String} (hc : headerKey name ∉ w.header.claims) (values : List String) :
    (w.kept name values).Owned none key own := by
  refine ⟨?_, h.alone, h.handedOut, fun other ho => ?_⟩
  · rw [claims_kept]
    exact List.mem_append_left _ h.claimed
  · have hne : headerKey name ≠ headerKey other := fun he => hc ((he.trans ho) ▸ h.claimed)
    rw [values_kept, if_neg hne]
    exact h.holds other ho

end Writer

/-- The keys of the two opener headers. -/
theorem headerKey_opener :
    headerKey openerHeader = "cross-origin-opener-policy" ∧
      headerKey reportOnlyHeader = "cross-origin-opener-policy-report-only" := by
  decide +kernel

/-- **What an opener interceptor does**: it keeps both headers, up to one that is claimed already. -/
theorem Directives.emit_eq (d : Directives) (w : Writer) :
    d.emit w =
      if headerKey openerHeader ∈ w.header.claims then
        (.error (.header (.claimedTwice openerHeader)), w)
      else if headerKey reportOnlyHeader ∈ (w.kept openerHeader d.enforced).header.claims then
        (.error (.header (.claimedTwice reportOnlyHeader)), w.kept openerHeader d.enforced)
      else (.ok false, (w.kept openerHeader d.enforced).kept reportOnlyHeader d.reportOnly) := by
  by_cases h₁ : headerKey openerHeader ∈ w.header.claims
  · rw [if_pos h₁, Directives.emit, Header.claim_of_mem h₁]
  · rw [if_neg h₁, Directives.emit, Header.claim_of_not_mem h₁]
    by_cases h₂ : headerKey reportOnlyHeader ∈ (w.kept openerHeader d.enforced).header.claims
    · have hclaim := Header.claim_of_mem h₂
      rw [if_pos h₂]
      simp only [Writer.kept] at hclaim ⊢
      rw [hclaim]
    · have hclaim := Header.claim_of_not_mem h₂
      rw [if_neg h₂]
      simp only [Writer.kept] at hclaim ⊢
      rw [hclaim]

/-! ## 3. Guarded headers -/

/-- **The opener headers are guarded**: both are owned by whoever acted, and hold its directives. -/
structure Guarded (d : Directives) (w : Writer) : Prop where
  sound : w.Sound
  enforced : w.Owned none (headerKey openerHeader) d.enforced
  reportOnly : w.Owned none (headerKey reportOnlyHeader) d.reportOnly

/-- **No operation changes guarded headers.** -/
theorem Guarded.effect {d : Directives} {w w' : Writer} {o : Operation} (h : Guarded d w)
    (he : w.Effect o w') : Guarded d w' := by
  have hgiven : ∀ values, o.given none values = values := fun values => lastGiven_none values [o]
  have h₁ := h.enforced.effect he
  have h₂ := h.reportOnly.effect he
  rw [hgiven] at h₁ h₂
  exact ⟨h.sound.effect he, h₁, h₂⟩

/-- **An opener interceptor that does not fail has its headers guarded.** -/
theorem guarded_of_emit {d : Directives} {w : Writer} {written : Bool} (hw : w.Sound)
    (h : (d.emit w).1 = .ok written) : written = false ∧ Guarded d (d.emit w).2 := by
  rw [d.emit_eq] at h ⊢
  split at h
  · cases h
  · next h₁ =>
    split at h
    · cases h
    · next h₂ =>
      rw [if_neg h₁, if_neg h₂]
      obtain rfl := Except.ok.inj h
      have hkept := hw.kept h₁ d.enforced
      have hown := hw.owned_kept h₁ d.enforced
      exact ⟨rfl, hkept.kept h₂ d.reportOnly, hown.kept h₂ d.reportOnly,
        hkept.owned_kept h₂ d.reportOnly⟩

/-- A second opener interceptor fails. -/
theorem Guarded.emit_error {d : Directives} {w : Writer} (h : Guarded d w) (d' : Directives) :
    ∃ f, (d'.emit w).1 = .error f := by
  rw [d'.emit_eq, if_pos h.enforced.claimed]
  exact ⟨_, rfl⟩

section Phases

variable {ρ : Type} {request : Request} {reply : Option ρ} {b : Binding ρ} {w : Writer}

/-- What every operation keeps, a confined interceptor keeps. -/
theorem holds_foreign {P : Writer → Prop}
    (step : ∀ (w w' : Writer) (o : Operation), P w → w.Effect o w' → P w') {f : Foreign ρ}
    (hf : f.Confined) (phase : Phase) (config : Option Config) (h : P w) :
    P (f.act phase request reply config w).2 := by
  obtain ⟨p, hp⟩ := hf phase request reply config
  rw [hp]
  exact p.holds_run step h

/-- After the handler no confined interceptor changes guarded headers. -/
theorem Guarded.act_later {d : Directives} {phase : Phase} (h : Guarded d w)
    (hb : b.interceptor.Confined) (hphase : phase ≠ .before) :
    Guarded d (b.interceptor.act phase request reply b.config w).2 := by
  cases hi : b.interceptor with
  | opener own =>
    cases phase with
    | before => exact absurd rfl hphase
    | commit => exact h
    | onError => exact h
  | foreign f =>
    rw [hi] at hb
    exact holds_foreign (fun _ _ _ hg he => hg.effect he) hb phase b.config h

/-- **Guarded headers stay guarded in every later phase**, however it ends. -/
theorem Guarded.runFrom_later {d : Directives} {phase : Phase} {bindings : List (Binding ρ)}
    (hphase : phase ≠ .before) (hb : ∀ b ∈ bindings, b.interceptor.Confined) (h : Guarded d w)
    (position : Nat) : Guarded d (runFrom phase request reply position bindings w).writer := by
  induction bindings generalizing position w with
  | nil => exact h
  | cons b rest ih =>
    have hact : Guarded d (b.interceptor.act phase request reply b.config w).2 :=
      h.act_later (hb b List.mem_cons_self) hphase
    rw [runFrom]
    rcases hr : b.interceptor.act phase request reply b.config w with ⟨f | ⟨_ | _⟩, w'⟩
    · rw [hr] at hact
      exact hact
    · rw [hr] at hact
      exact ih (fun b' hb' => hb b' (List.mem_cons_of_mem b hb')) hact (position + 1)
    · rw [hr] at hact
      exact hact

end Phases

/-! ## 4. The opener interceptors that acted -/

section Openings

variable {ρ : Type}

/-- The directives of the opener interceptor that an event is the call of, before the handler. Its
    config counts if it is an override. -/
def Event.opening? (bindings : List (Binding ρ)) : Event ρ → Option Directives
  | .called position .before _ _ =>
    match bindings[position]? with
    | some ⟨.opener d, config⟩ => some (Interceptor.effective d config)
    | _ => none
  | _ => none

/-- **The directives of all opener interceptors that were called before the handler**, in order. -/
def openings (bindings : List (Binding ρ)) (events : List (Event ρ)) : List Directives :=
  events.filterMap (Event.opening? bindings)

variable {all bindings : List (Binding ρ)} {request : Request} {reply : Option ρ} {w : Writer}

theorem openings_cons (e : Event ρ) (events : List (Event ρ)) :
    openings all (e :: events) = (e.opening? all).toList ++ openings all events := by
  unfold openings
  rw [List.filterMap_cons]
  cases e.opening? all <;> rfl

theorem openings_append (first second : List (Event ρ)) :
    openings all (first ++ second) = openings all first ++ openings all second :=
  List.filterMap_append

/-- **What the opener interceptors that acted leave behind**: a sound writer if there was none, guarded
    headers after one, and there are never more. -/
def Settled : List Directives → Writer → Prop
  | [], w => w.Sound
  | [d], w => Guarded d w
  | _, _ => False

theorem Settled.effect {ds : List Directives} {w w' : Writer} {o : Operation} (h : Settled ds w)
    (he : w.Effect o w') : Settled ds w' := by
  match ds, h with
  | [], h => exact Writer.Sound.effect h he
  | [d], h => exact Guarded.effect h he

/-- The directives of an interceptor that is an opener interceptor. -/
def Binding.opening (b : Binding ρ) : List Directives :=
  match b.interceptor with
  | .opener d => [Interceptor.effective d b.config]
  | .foreign _ => []

/-- **A confined interceptor that does not fail** before the handler settles what it opens. -/
theorem Settled.act_before {ds : List Directives} {b : Binding ρ} {written : Bool}
    (h : Settled ds w) (hb : b.interceptor.Confined)
    (hr : (b.interceptor.act .before request reply b.config w).1 = .ok written) :
    Settled (ds ++ b.opening) (b.interceptor.act .before request reply b.config w).2 := by
  cases hi : b.interceptor with
  | foreign f =>
    rw [hi] at hb
    rw [Binding.opening, hi, List.append_nil]
    exact holds_foreign (fun _ _ _ hs he => hs.effect he) hb .before b.config h
  | opener d =>
    rw [hi] at hr
    rw [Binding.opening, hi]
    match ds, h with
    | [], h => exact (guarded_of_emit h hr).2
    | [d'], h =>
      obtain ⟨f, hf⟩ := Guarded.emit_error h (Interceptor.effective d b.config)
      have hr : ((Interceptor.effective d b.config).emit w).1 = .ok written := hr
      rw [hf] at hr
      cases hr

/-- The call of an interceptor counts if it is an opener interceptor. -/
theorem openings_called {position : Nat} {b : Binding ρ} {rest : List (Binding ρ)}
    (hall : all.drop position = b :: rest) (events : List (Event ρ)) :
    openings all (.called position .before b.config reply :: events)
      = b.opening ++ openings all events := by
  have hget : all[position]? = some b := by
    rw [← List.head?_drop, hall]
    rfl
  rw [openings_cons, Event.opening?, hget]
  obtain ⟨i, config⟩ := b
  cases i <;> rfl

/-- **The phase before the handler**, as long as it does not fail, settles all that it opens. -/
theorem Settled.runFrom_before {ds : List Directives} {position : Nat} (h : Settled ds w)
    (hall : all.drop position = bindings) (hb : ∀ b ∈ bindings, b.interceptor.Confined)
    {written : Bool}
    (hr : (runFrom .before request reply position bindings w).outcome = .ok written) :
    Settled (ds ++ openings all (runFrom .before request reply position bindings w).events)
      (runFrom .before request reply position bindings w).writer := by
  induction bindings generalizing ds position w with
  | nil =>
    rw [show ds ++ openings all (runFrom .before request reply position [] w).events = ds from
      List.append_nil ds]
    exact h
  | cons b rest ih =>
    have hact : ∀ written', (b.interceptor.act .before request reply b.config w).1 = .ok written' →
        Settled (ds ++ b.opening) (b.interceptor.act .before request reply b.config w).2 :=
      fun _ hok => h.act_before (hb b List.mem_cons_self) hok
    rw [runFrom] at hr ⊢
    rcases hc : b.interceptor.act .before request reply b.config w with ⟨f | ⟨_ | _⟩, w'⟩
    · rw [hc] at hr
      cases hr
    · rw [hc] at hr hact
      have hrest : all.drop (position + 1) = rest := by
        rw [← List.drop_drop, hall]
        rfl
      have hgo := ih (hact false rfl) hrest (fun b' hb' => hb b' (List.mem_cons_of_mem b hb')) hr
      simp only [openings_called hall]
      rw [← List.append_assoc]
      exact hgo
    · rw [hc] at hact
      simp only [openings_called hall]
      rw [show openings all (stopEvents .before b.interceptor request) = [] from rfl, List.append_nil]
      exact hact true rfl

/-- No opener interceptor is called in a later phase. -/
theorem openings_later {phase : Phase} (hphase : phase ≠ .before) :
    openings all (runPhase phase bindings request reply w).events = [] := by
  rw [openings, List.filterMap_eq_nil_iff]
  intro e he
  rcases mem_runFrom_events he with ⟨i, config, rfl⟩ | ⟨n, rfl⟩
  · cases phase with
    | before => exact absurd rfl hphase
    | commit => rfl
    | onError => rfl
  · rfl

end Openings

end OpenerPolicy
