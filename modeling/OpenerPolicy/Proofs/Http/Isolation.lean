/-
  File:      OpenerPolicy/Proofs/Http/Isolation.lean
  Subject:   THE OPENER POLICY THAT IS SENT IS THE ONE THAT WAS MEANT.

  Whatever a handler and confined interceptors do, in any phase and in any order: a response carries
  the directives of the opener interceptor that acted, or of the override of the handler, and no
  other lines under the names of the opener headers.

  * `openings_routed`, `openings_answered` -- an application calls no interceptors by itself;
  * `settled_lastRun` -- the opener headers when the last phase has run;
  * `values_of_outcome` -- the directives and the lines of a response, for every handler that sends
    names in lowercase;
  * **`opener_directives_sent`** -- the same for every application, with the interceptors inside it
    or around it, and for every other handler of that kind.
-/
import OpenerPolicy.Proofs.Http.Lifecycle
import OpenerPolicy.Proofs.Http.Names
import OpenerPolicy.Proofs.Pipeline.Confinement
import OpenerPolicy.Proofs.Pipeline.Selection

namespace OpenerPolicy.Http

/-! ## 1. Calls of interceptors -/

section Openings

variable {bindings : List (Binding Response)}

theorem openings_answer (incoming : Incoming) (resolution : Resolution) :
    openings bindings (resolution.answer incoming).events = [] := by
  induction resolution with
  | found route => rfl
  | methodRefused route => rfl
  | redirected path => rfl
  | mounted below ih => exact ih
  | nothing => rfl

/-- **The routes call no interceptors.** -/
theorem openings_routed (sites : List Site) (incoming : Incoming) :
    openings bindings (routed sites incoming).events = [] := by
  unfold routed
  cases resolve sites incoming.method incoming.path with
  | ok resolution => exact openings_answer incoming resolution
  | error f => rfl

theorem openings_answered {next : Answer} (h : openings bindings next.events = []) :
    openings bindings (answered next).events = [] := by
  unfold answered
  split
  · exact h
  · rw [openings_append, h]
    rfl

/-- Notices are no calls. -/
theorem openings_steps (events : List (Event Response)) :
    openings bindings (steps events) = openings bindings events := by
  induction events with
  | nil => rfl
  | cons e rest ih =>
    cases e with
    | logged n => exact ih
    | called position phase config reply =>
      rw [openings_cons, ← ih]
      exact openings_cons _ (steps rest)
    | handled route => exact ih
    | failed f => exact ih

end Openings

/-! ## 2. The headers that are sent -/

section Sent

variable {bindings : List (Binding Response)} {request : Request} {next : Answer}

/-- **The opener headers when the last phase has run**: guarded, if an opener interceptor acted. -/
theorem settled_lastRun (hb : ∀ b ∈ bindings, b.interceptor.Confined) {written : Bool}
    (hr : (lastRun bindings request next).outcome = .ok written) :
    let acted := openings bindings (runPhase .before bindings request none {}).events
    acted.length ≤ 1 ∧ ∀ d ∈ acted, Guarded d (lastRun bindings request next).writer := by
  intro acted
  obtain ⟨passed, hpassed⟩ :
      ∃ passed, (runPhase .before bindings request none {}).outcome = .ok passed := by
    cases hbefore : (runPhase .before bindings request none {}).outcome with
    | ok passed => exact ⟨passed, rfl⟩
    | error f =>
      rw [lastRun_of_stopped (by rw [hbefore]; nofun), hbefore] at hr
      cases hr
  have hsettled : Settled acted (runPhase .before bindings request none {}).writer :=
    Settled.runFrom_before (show Settled [] {} from Writer.sound_start []) rfl hb hpassed
  match hacted : acted, hsettled with
  | [], _ => exact ⟨Nat.zero_le 1, fun d hd => absurd hd List.not_mem_nil⟩
  | [d], hguarded =>
    refine ⟨Nat.le_refl 1, fun d' hd' => ?_⟩
    obtain rfl := List.mem_singleton.1 hd'
    rcases lastRun_cases bindings request next with ⟨-, hlast⟩ | ⟨-, phase, reply, hphase, hlast⟩
    · rw [hlast]
      exact hguarded
    · rw [hlast]
      exact Guarded.runFrom_later hphase hb hguarded 0

/-- The interceptors that are called before the handler are all that open anything. -/
theorem openings_interceptBound (hnext : openings bindings next.events = []) :
    openings bindings (interceptBound bindings request next).events
      = openings bindings (runPhase .before bindings request none {}).events := by
  rcases lastRun_cases bindings request next with ⟨hstop, -⟩ | ⟨hgo, phase, reply, hphase, hlast⟩
  · rw [events_of_stopped hstop]
  · have hlater : openings bindings (lastRun bindings request next).events = [] := by
      rw [hlast]
      exact openings_later hphase
    have hsteps : steps (interceptBound bindings request next).events = _ :=
      filter_of_passed hgo next fun _ => rfl
    rw [← openings_steps, hsteps, openings_append, openings_append]
    show openings bindings (steps _)
      ++ (openings bindings (steps _) ++ openings bindings (steps _)) = _
    rw [openings_steps, openings_steps, openings_steps, hnext, hlater, List.append_nil,
      List.append_nil]

end Sent

/-- What is bound opens nothing by being bound. -/
theorem openings_intercept {interceptors : List (Interceptor Response)}
    {candidates : List (Component Response)} {bindings : List (Binding Response)} {request : Request}
    {next : Answer} (hb : (bindAll candidates interceptors).1 = .ok bindings) :
    openings bindings (intercept interceptors candidates request next).events
      = openings bindings (interceptBound bindings request next).events := by
  have hsteps : steps _ = steps _ := (intercept_of_bound hb request next).2 Event.isStep fun _ => rfl
  rw [← openings_steps, hsteps, openings_steps]

/-- What is bound are the interceptors of the pipeline. -/
theorem confined_of_bound {interceptors : List (Interceptor Response)}
    {candidates : List (Component Response)} {bindings : List (Binding Response)}
    (hi : ∀ i ∈ interceptors, i.Confined)
    (hb : (bindAll candidates interceptors).1 = .ok bindings) :
    ∀ b ∈ bindings, b.interceptor.Confined := by
  intro b hmem
  refine hi b.interceptor ?_
  rw [← ((bindAll_eq_ok_iff _ _ _).1 hb).1]
  exact List.mem_map_of_mem hmem

/-- The response that headers are put onto has names in lowercase if the handler's own has. -/
theorem lowercased_phaseBase {next : Answer}
    (hlines : ∀ own, next.outcome = .ok own → own.Lowercased) (run : Run Response)
    (written : Bool) :
    (phaseBase run written next.atHand).Lowercased := by
  cases written with
  | true => exact Response.lowercased_plain _ _
  | false =>
    show next.atHand.Lowercased
    unfold Answer.atHand
    split
    · next own hown => exact hlines own hown
    · exact Response.lowercased_serverError

/-- **The directives and the lines of a response**, for every handler whose names are in lowercase
    and that calls no interceptors. -/
theorem values_of_outcome {interceptors : List (Interceptor Response)}
    {candidates : List (Component Response)} {request : Request} {next : Answer} {response : Response}
    (hi : ∀ i ∈ interceptors, i.Confined)
    (hlines : ∀ own, next.outcome = .ok own → own.Lowercased)
    (hcalls : ∀ bindings, openings bindings next.events = [])
    (h : (intercept interceptors candidates request next).outcome = .ok response) :
    ∃ bindings, (bindAll candidates interceptors).1 = .ok bindings ∧
      (openings bindings (intercept interceptors candidates request next).events).length ≤ 1 ∧
      ∀ d ∈ openings bindings (intercept interceptors candidates request next).events,
        response.values openerHeader = d.enforced ∧
        response.values reportOnlyHeader = d.reportOnly := by
  cases hb : (bindAll candidates interceptors).1 with
  | error f =>
    rw [(intercept_of_not_bound hb request next).1] at h
    cases h
  | ok bindings =>
    have hconfined := confined_of_bound hi hb
    rw [(intercept_of_bound hb request next).1, outcome_interceptBound] at h
    obtain ⟨written, hlast, hsendable, hresponse⟩ := (phaseAnswer_eq_ok_iff _ _ _).1 h
    have happly := (Response.apply_eq_ok_iff _ _ _).2 ⟨hsendable, hresponse⟩
    obtain ⟨hone, hguarded⟩ := settled_lastRun hconfined hlast
    refine ⟨bindings, rfl, ?_⟩
    rw [openings_intercept hb, openings_interceptBound (hcalls bindings)]
    refine ⟨hone, fun d hd => ?_⟩
    have hg := hguarded d hd
    have hvalues := Response.values_apply happly hg.sound.header (lowercased_phaseBase hlines _ written)
    constructor
    · rw [hvalues, if_pos (Or.inl hg.enforced.claimed)]
      exact hg.enforced.holds openerHeader rfl
    · rw [hvalues, if_pos (Or.inl hg.reportOnly.claimed)]
      exact hg.reportOnly.holds reportOnlyHeader rfl

/-! ## 3. Applications -/

/-- **The opener policy that is sent is the one that was meant.** The interceptors are inside the
    application or around it, or around any other handler that sends names in lowercase and calls no
    interceptors. Other interceptors are confined, and neither they nor the handlers are restricted in
    any other way: where there is a response, one opener interceptor at most was called before the
    handler, and if one was, the lines under the names of the opener headers, however these are
    spelled, are its directives, or those of the override it was bound to, in order. -/
theorem opener_directives_sent (interceptors : List (Interceptor Response))
    (candidates : List (Component Response)) (sites : List Site) (incoming : Incoming)
    (request : Request) (next : Answer) (response : Response)
    (hi : ∀ i ∈ interceptors, i.Confined)
    (hnext : next = routed sites incoming ∨ next = answered (routed sites incoming) ∨
      (∀ own, next.outcome = .ok own → own.Lowercased) ∧
        ∀ bindings, openings bindings next.events = [])
    (h : (intercept interceptors candidates request next).outcome = .ok response) :
    ∃ bindings, (bindAll candidates interceptors).1 = .ok bindings ∧
      (openings bindings (intercept interceptors candidates request next).events).length ≤ 1 ∧
      ∀ d ∈ openings bindings (intercept interceptors candidates request next).events,
        response.values openerHeader = d.enforced ∧
        response.values reportOnlyHeader = d.reportOnly := by
  have hlines : ∀ own, (routed sites incoming).outcome = .ok own → own.Lowercased :=
    fun _ => lowercased_routed
  rcases hnext with rfl | rfl | ⟨hlowercased, hcalls⟩
  · exact values_of_outcome hi hlines (fun _ => openings_routed sites incoming) h
  · exact values_of_outcome hi (fun _ => lowercased_answered hlines)
      (fun _ => openings_answered (openings_routed sites incoming)) h
  · exact values_of_outcome hi hlowercased hcalls h

/-- An interceptor that tries to weaken the policy in every phase, and goes on if it is refused. -/
def meddler : Interceptor Response :=
  .foreign ⟨"Meddler", "", fun _ _ _ _ =>
    (Program.perform (.set "cross-origin-opener-policy" "unsafe-none") fun _ => .finish false).run⟩

/-- A pipeline in which it acts first. -/
def meddled : List (Interceptor Response) := [meddler, .opener ⟨["same-origin"], ["unsafe-none"]⟩]

/-- A route with an override, whose handler sets the opener headers itself. -/
def popupRoute : Route where
  pattern := ⟨"/", [.char '/']⟩
  methods := ["GET"]
  attachments := [[.config (.override ⟨["same-origin-allow-popups"], []⟩)]]
  endpoint := .respond 200 [] none
    [("Cross-Origin-Opener-Policy", "unsafe-none"),
      ("CROSS-ORIGIN-OPENER-POLICY-REPORT-ONLY", "unsafe-none")]

/-- The override alone is sent, whatever the handler and the other interceptor try. -/
theorem popup_directives_sent :
    ∃ response,
      (intercept meddled popupRoute.configs {} (routed [.route popupRoute] ⟨"GET", "/", []⟩)).outcome
        = .ok response ∧
      response.values openerHeader = ["same-origin-allow-popups"] ∧
      response.values reportOnlyHeader = [] := by
  cases h : (intercept meddled popupRoute.configs {}
      (routed [.route popupRoute] ⟨"GET", "/", []⟩)).outcome with
  | error f =>
    have hok : (intercept meddled popupRoute.configs {}
        (routed [.route popupRoute] ⟨"GET", "/", []⟩)).outcome.isOk = true := by decide +kernel
    rw [h] at hok
    cases hok
  | ok response =>
    have hconfined : ∀ i ∈ meddled, i.Confined := by
      intro i hi
      rcases List.mem_cons.1 hi with rfl | hi
      · exact fun _ _ _ _ => ⟨_, rfl⟩
      · obtain rfl := List.mem_singleton.1 hi
        exact trivial
    obtain ⟨bindings, hb, -, hsent⟩ := opener_directives_sent meddled popupRoute.configs
      [.route popupRoute] ⟨"GET", "/", []⟩ {} _ response hconfined (Or.inl rfl) h
    have hbound : (bindAll popupRoute.configs meddled).1 = .ok [⟨meddler, none⟩,
        ⟨.opener ⟨["same-origin"], ["unsafe-none"]⟩,
          some (.override ⟨["same-origin-allow-popups"], []⟩)⟩] := rfl
    obtain rfl := Except.ok.inj (hbound.symm.trans hb)
    exact ⟨response, rfl, hsent ⟨["same-origin-allow-popups"], []⟩ (by decide +kernel)⟩

end OpenerPolicy.Http
