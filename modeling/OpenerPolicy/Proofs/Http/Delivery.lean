/-
  File:      OpenerPolicy/Proofs/Http/Delivery.lean
  Subject:   WHICH OPENER POLICIES REACH THE BROWSER.

  A policy is checked nowhere: its group stands in the directive as it is, and only when a response
  is sent does it turn out whether it can be. With a single opener interceptor, responses are
  delivered with all directives exactly if the groups are Latin-1; one group beyond it makes every
  request fail. That a group is safe between double quotes is not enough.

  * `isLatin1_directive`, `isLatin1_ofPolicies` -- a directive can be sent exactly if its group can;
  * `opened`, `lastRun_alone` -- the writer that a single opener interceptor leaves behind;
  * `sendable_opened` -- when its headers can be sent;
  * `unencodable_of_apply` -- headers are not put onto a response for one reason only;
  * `apply_of_latin1`, `apply_of_beyond` -- policies that are put onto every response, and onto none;
  * **`delivered_iff_groups_latin1`** -- the reply of an application with this one interceptor;
  * `Policy.Quotable`, `quotable_group_not_delivered` -- groups that are safe between double quotes,
    and one that fails all the same.
-/
import OpenerPolicy.Proofs.Http.Isolation
import OpenerPolicy.Proofs.Http.Routing

namespace OpenerPolicy

open Http Text

/-! ## 1. Directives that can be sent -/

theorem isLatin1_append (s t : String) : IsLatin1 (s ++ t) ↔ IsLatin1 s ∧ IsLatin1 t := by
  unfold IsLatin1
  rw [String.toList_append]
  exact List.forall_mem_append

/-- **A directive can be sent exactly if its group can.** -/
theorem isLatin1_directive (p : Policy) : IsLatin1 p.directive ↔ IsLatin1 p.group := by
  have hmode : IsLatin1 p.mode.token := by cases p.mode <;> decide +kernel
  unfold Policy.directive
  by_cases hgroup : p.group = ""
  · rw [if_pos hgroup, hgroup]
    exact iff_of_true hmode (by decide +kernel)
  · have hopening : IsLatin1 "; " ∧ IsLatin1 reportToParameter ∧ IsLatin1 " \"" ∧ IsLatin1 "\"" := by
      decide +kernel
    obtain ⟨hsemicolon, hparameter, hopen, hclose⟩ := hopening
    rw [if_neg hgroup]
    simp only [isLatin1_append, hmode, hsemicolon, hparameter, hopen, hclose, true_and, and_true]

/-- All directives of policies can be sent exactly if all groups can. -/
theorem isLatin1_ofPolicies (policies : List Policy) :
    ((∀ value ∈ (Directives.ofPolicies policies).enforced, IsLatin1 value) ∧
      ∀ value ∈ (Directives.ofPolicies policies).reportOnly, IsLatin1 value) ↔
    ∀ p ∈ policies, IsLatin1 p.group := by
  simp only [Directives.ofPolicies, List.forall_mem_map, List.mem_filter, isLatin1_directive]
  constructor
  · rintro ⟨henforced, hreported⟩ p hp
    cases hr : p.reportOnly with
    | false => exact henforced p ⟨hp, by rw [hr]; rfl⟩
    | true => exact hreported p ⟨hp, hr⟩
  · exact fun h => ⟨fun p hp => h p hp.1, fun p hp => h p hp.1⟩

/-- **A group that is safe between double quotes**: it has no double quote and no control
    character. -/
def Policy.Quotable (p : Policy) : Prop :=
  ∀ c ∈ p.group.toList, c ≠ '"' ∧ ¬ (c.toNat < 0x20 ∨ (0x7F ≤ c.toNat ∧ c.toNat < 0xA0))

instance (p : Policy) : Decidable p.Quotable := List.decidableBAll _ _

/-! ## 2. A single opener interceptor -/

/-- **The writer that a single opener interceptor leaves behind.** -/
def opened (d : Directives) : Writer :=
  (({} : Writer).kept openerHeader d.enforced).kept reportOnlyHeader d.reportOnly

theorem emit_start (d : Directives) : d.emit {} = (.ok false, opened d) := by
  obtain ⟨henforced, hreported⟩ := headerKey_opener
  have hfirst : headerKey openerHeader ∉ ({} : Writer).header.claims := List.not_mem_nil
  have hsecond :
      headerKey reportOnlyHeader ∉ (({} : Writer).kept openerHeader d.enforced).header.claims := by
    rw [Writer.claims_kept, henforced, hreported]
    decide
  rw [d.emit_eq, if_neg hfirst, if_neg hsecond]
  rfl

theorem guarded_opened (d : Directives) : Guarded d (opened d) := by
  have hemit : (d.emit {}).1 = .ok false := by rw [emit_start]
  have hstart : ({} : Writer).Sound := Writer.sound_start []
  have hguarded := (guarded_of_emit hstart hemit).2
  rw [emit_start] at hguarded
  exact hguarded

/-- The headers it emits: one for each list of directives that is not empty. -/
theorem items_opened (d : Directives) :
    (opened d).header.items
      = [⟨openerHeader, d.enforced⟩, ⟨reportOnlyHeader, d.reportOnly⟩].filter
          (!·.values.isEmpty) := by
  obtain ⟨henforced, hreported⟩ := headerKey_opener
  obtain ⟨enforced, reportOnly⟩ := d
  cases enforced <;> cases reportOnly <;>
    simp [opened, Writer.kept, Header.assign, Header.items, Keyed.remove, Keyed.put, henforced,
      hreported]

/-- **Its headers can be sent exactly if all directives can.** -/
theorem sendable_opened (d : Directives) :
    (opened d).header.Sendable ↔
      (∀ value ∈ d.enforced, IsLatin1 value) ∧ ∀ value ∈ d.reportOnly, IsLatin1 value := by
  have hkeys : IsLatin1 (headerKey openerHeader) ∧ IsLatin1 (headerKey reportOnlyHeader) := by
    rw [headerKey_opener.1, headerKey_opener.2]
    decide +kernel
  have hnonempty : ∀ (values : List String) (value : String), value ∈ values →
      (!values.isEmpty) = true := by
    intro values value hvalue
    cases values with
    | nil => exact absurd hvalue List.not_mem_nil
    | cons first rest => rfl
  constructor
  · -- a directive is a value of an entry, and that entry is emitted as its list is not empty
    intro h
    have hvalues := h.values
    rw [items_opened] at hvalues
    refine ⟨fun value hvalue => ?_, fun value hvalue => ?_⟩
    · exact hvalues ⟨openerHeader, d.enforced⟩
        (List.mem_filter.2 ⟨List.mem_cons_self, hnonempty _ value hvalue⟩) value hvalue
    · exact hvalues ⟨reportOnlyHeader, d.reportOnly⟩
        (List.mem_filter.2 ⟨List.mem_cons_of_mem _ List.mem_cons_self, hnonempty _ value hvalue⟩)
        value hvalue
  · rintro ⟨henforced, hreported⟩
    have hentry : ∀ e ∈ (opened d).header.items,
        e = ⟨openerHeader, d.enforced⟩ ∨ e = ⟨reportOnlyHeader, d.reportOnly⟩ := by
      intro e he
      rw [items_opened] at he
      rcases List.mem_cons.1 (List.mem_filter.1 he).1 with h | h
      · exact Or.inl h
      · exact Or.inr (List.mem_singleton.1 h)
    refine ⟨fun name hname => ?_, fun e he => ?_, fun e he => ?_⟩
    · rw [opened, Writer.claims_kept, Writer.claims_kept] at hname
      rcases List.mem_append.1 hname with h | h
      · obtain rfl := List.mem_singleton.1 h
        exact isLatin1_headerKey hkeys.1
      · obtain rfl := List.mem_singleton.1 h
        exact isLatin1_headerKey hkeys.2
    · rcases hentry e he with rfl | rfl
      · exact hkeys.1
      · exact hkeys.2
    · rcases hentry e he with rfl | rfl
      · exact henforced
      · exact hreported

/-- Configs of which none is meant for the interceptor leave it without one. -/
theorem bindAll_alone {d : Directives} {candidates : List (Component Response)}
    (h : ∀ c ∈ candidates, c.config?.isSome = true ∧ c.accepts (.opener d) = false) :
    (bindAll candidates [.opener d]).1 = .ok [⟨.opener d, none⟩] := by
  refine (bindAll_eq_ok_iff _ _ _).2 ⟨rfl, fun b hb => ?_⟩
  obtain rfl := List.mem_singleton.1 hb
  exact (select_eq_ok_iff _ _ _).2 ⟨fun c hc => (h c hc).1, meantFor_eq_nil fun c hc => (h c hc).2⟩

/-- **When the response of a handler is committed**, nothing but the directives was written. -/
theorem lastRun_alone (d : Directives) (r : Request) {next : Answer} {own : Response}
    (hnext : next.outcome = .ok own) :
    (lastRun [⟨.opener d, none⟩] r next).outcome = .ok false ∧
      (lastRun [⟨.opener d, none⟩] r next).writer = opened d := by
  have hact : Interceptor.act (.opener d) .before r (none : Option Response) none ({} : Writer)
      = (.ok false, opened d) := emit_start d
  -- all is done before the handler runs; on the way back an opener interceptor does nothing
  have hbefore : runPhase .before [⟨.opener d, none⟩] r (none : Option Response) {}
      = ⟨.ok false, opened d, [.called 0 .before none none]⟩ := by
    rw [runPhase, runFrom, hact]
    rfl
  rw [lastRun_of_ok (by rw [hbefore]) hnext, hbefore]
  exact ⟨rfl, rfl⟩

/-! ## 3. Why headers cannot be sent -/

theorem unencodable_of_sendable {s : String} {f : Fault} (h : sendable s = .error f) :
    ∃ g, f = .unencodable g := by
  unfold sendable at h
  cases he : Latin1.encodable s with
  | ok t =>
    rw [he] at h
    cases h
  | error g =>
    rw [he] at h
    exact ⟨g, (Except.error.inj h).symm⟩

namespace Http.Response

theorem unencodable_of_append {r : Response} {name value : String} {f : Fault}
    (h : r.append name value = .error f) : ∃ g, f = .unencodable g := by
  rcases bind_eq_error h with hname | ⟨n, -, h⟩
  · exact unencodable_of_sendable hname
  · rcases bind_eq_error h with hvalue | ⟨v, -, h⟩
    · exact unencodable_of_sendable hvalue
    · cases h

theorem unencodable_of_remove {r : Response} {name : String} {f : Fault}
    (h : r.remove name = .error f) : ∃ g, f = .unencodable g := by
  rcases bind_eq_error h with hname | ⟨n, -, h⟩
  · exact unencodable_of_sendable hname
  · cases h

/-- **Headers are not put onto a response for one reason only**: some text of theirs is not
    Latin-1. -/
theorem unencodable_of_apply {r : Response} {h : Header} {f : Fault} (ha : r.apply h = .error f) :
    ∃ g, f = .unencodable g := by
  -- the lines of claimed names are taken off, then each entry replaces the lines of its name
  rcases bind_eq_error ha with hclaims | ⟨s, -, hitems⟩
  · obtain ⟨name, -, t, hremove⟩ := foldlM_eq_error hclaims
    exact unencodable_of_remove hremove
  · obtain ⟨e, -, t, hentry⟩ := foldlM_eq_error hitems
    rcases bind_eq_error hentry with hremove | ⟨t', -, hvalues⟩
    · exact unencodable_of_remove hremove
    · obtain ⟨value, -, t'', happend⟩ := foldlM_eq_error hvalues
      exact unencodable_of_append happend

end Http.Response

/-! ## 4. Delivery -/

namespace Http

/-- Where the routes answer, the configs were looked up. -/
theorem configsFor_of_routed {sites : List Site} {incoming : Incoming} {own : Response}
    (h : (routed sites incoming).outcome = .ok own) :
    ∃ configs, configsFor incoming.method incoming.path sites = .ok configs := by
  unfold routed at h
  cases hr : resolve sites incoming.method incoming.path with
  | ok resolution => exact ⟨resolution.configs, configsFor_of_resolve_ok hr⟩
  | error f =>
    rw [hr] at h
    cases h

/-- The reply of interceptors inside an application whose configs were looked up. -/
theorem serveInside_of_configs {interceptors : List (Interceptor Response)} {sites : List Site}
    {incoming : Incoming} {components configs : List (Component Response)}
    (hi : assemble components = .ok interceptors)
    (hc : configsFor incoming.method incoming.path sites = .ok configs) :
    let answer := intercept interceptors configs incoming.request (routed sites incoming)
    let reply := serveInside components sites incoming
    (∀ response, answer.outcome = .ok response →
      reply.response = some response ∧ reply.raised = none) ∧
    (∀ f, answer.outcome = .error f →
      reply.response = some Response.serverError ∧ reply.raised = some f) := by
  refine ⟨fun response h => ?_, fun f h => ?_⟩
  · simp only [serveInside, hi, hc, h, and_self]
  · simp only [serveInside, hi, hc, h, Reply.ofFault, and_self]

/-- **A single opener interceptor puts its headers onto the response of the handler**, and does
    nothing else. -/
theorem outcome_alone {d : Directives} {configs : List (Component Response)} {r : Request}
    {next : Answer} {own : Response} (hown : next.outcome = .ok own)
    (hnone : ∀ c ∈ configs, c.config?.isSome = true ∧ c.accepts (.opener d) = false) :
    (intercept [.opener d] configs r next).outcome = own.apply (opened d).header := by
  obtain ⟨hwritten, hwriter⟩ := lastRun_alone d r hown
  have hhand : next.atHand = own := by rw [Answer.atHand, hown]
  rw [(intercept_of_bound (bindAll_alone hnone) r next).1, outcome_interceptBound, phaseAnswer,
    hwritten, hwriter, hhand]
  rfl

/-- The reply of an application with a single opener interceptor, on a request that the routes answer
    and whose configs are not meant for it: its headers are put onto that answer, or the fault of
    doing so is reported. -/
theorem serveInside_alone {d : Directives} {sites : List Site} {incoming : Incoming} {own : Response}
    (hown : (routed sites incoming).outcome = .ok own)
    (hnone : ∀ configs, configsFor incoming.method incoming.path sites = .ok configs →
      ∀ c ∈ configs, c.config?.isSome = true ∧ c.accepts (.opener d) = false) :
    let reply := serveInside [.interceptor (.opener d)] sites incoming
    (∀ response, own.apply (opened d).header = .ok response →
      reply.response = some response ∧ reply.raised = none) ∧
    (∀ f, own.apply (opened d).header = .error f →
      reply.response = some Response.serverError ∧ reply.raised = some f) := by
  obtain ⟨configs, hconfigs⟩ := configsFor_of_routed hown
  have hassembled : assemble [.interceptor (.opener d)]
      = .ok ([.opener d] : List (Interceptor Response)) := rfl
  obtain ⟨hsent, hfailed⟩ := serveInside_of_configs hassembled hconfigs
  rw [outcome_alone hown (hnone configs hconfigs)] at hsent hfailed
  exact ⟨hsent, hfailed⟩

section Groups

variable {policies : List Policy} {own : Response}

/-- **Policies whose groups are Latin-1 are put onto every response**, with all their directives. -/
theorem apply_of_latin1 (hlines : own.Lowercased) (hgroups : ∀ p ∈ policies, IsLatin1 p.group) :
    let d := Directives.ofPolicies policies
    ∃ response, own.apply (opened d).header = .ok response ∧
      response.status = own.status ∧ response.body = own.body ∧
      response.values openerHeader = d.enforced ∧ response.values reportOnlyHeader = d.reportOnly := by
  intro d
  have hsendable := (sendable_opened d).2 ((isLatin1_ofPolicies policies).2 hgroups)
  have happly := (Response.apply_eq_ok_iff own _ (opened d).header).2 ⟨hsendable, rfl⟩
  have hguarded := guarded_opened d
  have hvalues := Response.values_apply happly hguarded.sound.header hlines
  -- both names are claimed, so no line of the response's own is left under them
  refine ⟨_, happly, rfl, rfl, ?_, ?_⟩
  · rw [hvalues, if_pos (Or.inl hguarded.enforced.claimed)]
    exact hguarded.enforced.holds openerHeader rfl
  · rw [hvalues, if_pos (Or.inl hguarded.reportOnly.claimed)]
    exact hguarded.reportOnly.holds reportOnlyHeader rfl

/-- **A policy whose group is beyond Latin-1 is put onto no response.** -/
theorem apply_of_beyond {p : Policy} (hp : p ∈ policies) (hbeyond : ¬ IsLatin1 p.group) :
    ∃ f, own.apply (opened (.ofPolicies policies)).header = .error (.unencodable f) := by
  cases happly : own.apply (opened (.ofPolicies policies)).header with
  | ok response =>
    have hsendable := ((Response.apply_eq_ok_iff _ _ _).1 happly).1
    have hgroups := (isLatin1_ofPolicies policies).1 ((sendable_opened _).1 hsendable)
    exact absurd (hgroups p hp) hbeyond
  | error f =>
    obtain ⟨g, rfl⟩ := Response.unencodable_of_apply happly
    exact ⟨g, rfl⟩

end Groups

/-- **Which opener policies reach the browser.** An application with one opener interceptor, on a
    request that the routes answer and whose configs are not meant for that interceptor: if all
    groups are Latin-1, the answer of the routes is sent, and the lines under the names of the opener
    headers are the directives of the policies, each enforced or reported as it says, in order. If
    one group is not, nothing is sent but a server error, and the fault is reported. -/
theorem delivered_iff_groups_latin1 (policies : List Policy) (sites : List Site)
    (incoming : Incoming) (own : Response) (hown : (routed sites incoming).outcome = .ok own)
    (hnone : ∀ configs, configsFor incoming.method incoming.path sites = .ok configs →
      ∀ c ∈ configs, c.config?.isSome = true ∧
        c.accepts (.opener (Directives.ofPolicies policies)) = false) :
    let d := Directives.ofPolicies policies
    let reply := serveInside [.interceptor (.opener d)] sites incoming
    ((∀ p ∈ policies, IsLatin1 p.group) →
      ∃ response, reply.response = some response ∧ reply.raised = none ∧
        response.status = own.status ∧ response.body = own.body ∧
        response.values openerHeader = d.enforced ∧
        response.values reportOnlyHeader = d.reportOnly) ∧
    ((∃ p ∈ policies, ¬ IsLatin1 p.group) →
      reply.response = some Response.serverError ∧ ∃ f, reply.raised = some (.unencodable f)) := by
  intro d reply
  obtain ⟨hsent, hfailed⟩ := serveInside_alone hown hnone
  constructor
  · intro hgroups
    obtain ⟨response, happly, hanswer⟩ := apply_of_latin1 (lowercased_routed hown) hgroups
    obtain ⟨hresponse, hraised⟩ := hsent response happly
    exact ⟨response, hresponse, hraised, hanswer⟩
  · rintro ⟨p, hp, hbeyond⟩
    obtain ⟨f, happly⟩ := apply_of_beyond hp hbeyond
    obtain ⟨hresponse, hraised⟩ := hfailed _ happly
    exact ⟨hresponse, f, hraised⟩

/-- A route without configs. -/
def plainRoute : Route where
  pattern := ⟨"/", [.char '/']⟩
  methods := ["GET"]
  attachments := []
  endpoint := .respond 200 (Text.utf8Bytes "ok") none [("Cross-Origin-Opener-Policy", "unsafe-none")]

/-- What the route answers, with an opener header of its own. -/
theorem routed_plainRoute : (routed [.route plainRoute] ⟨"GET", "/", []⟩).outcome
    = .ok ⟨200, [("content-length", "2"), ("cross-origin-opener-policy", "unsafe-none")],
      Text.utf8Bytes "ok"⟩ := rfl

theorem configsFor_plainRoute : configsFor "GET" "/" [.route plainRoute] = .ok [] := rfl

/-- An enforced and a reported policy are delivered, and nothing of what the handler sent itself. -/
theorem umlaut_group_delivered :
    ∃ response,
      (serveInside [.interceptor (.opener (.ofPolicies [⟨.sameOrigin, "größe", false⟩,
        ⟨.unsafeNone, "", true⟩]))] [.route plainRoute] ⟨"GET", "/", []⟩).response = some response ∧
      response.values openerHeader = ["same-origin; report-to \"größe\""] ∧
      response.values reportOnlyHeader = ["unsafe-none"] := by
  obtain ⟨hsent, -⟩ := delivered_iff_groups_latin1
    [⟨.sameOrigin, "größe", false⟩, ⟨.unsafeNone, "", true⟩] [.route plainRoute] ⟨"GET", "/", []⟩ _
    routed_plainRoute (fun configs hconfigs c hc => by
      obtain rfl := Except.ok.inj (configsFor_plainRoute.symm.trans hconfigs)
      cases hc)
  obtain ⟨response, hresponse, -, -, -, henforced, hreported⟩ := hsent (by decide +kernel)
  exact ⟨response, hresponse, henforced, hreported⟩

/-- **That all groups are safe between double quotes is not enough**: one letter beyond Latin-1, and
    no request is answered. -/
theorem quotable_group_not_delivered :
    ¬ ∀ (policies : List Policy) (sites : List Site) (incoming : Incoming) (own : Response),
      (∀ p ∈ policies, p.Quotable) → (routed sites incoming).outcome = .ok own →
      configsFor incoming.method incoming.path sites = .ok [] →
      (serveInside [.interceptor (.opener (.ofPolicies policies))] sites incoming).raised = none := by
  intro h
  have hquotable : Policy.Quotable ⟨.sameOrigin, "gruppe-ł", false⟩ := by decide +kernel
  have hnone := h [⟨.sameOrigin, "gruppe-ł", false⟩] [.route plainRoute] ⟨"GET", "/", []⟩ _
    (List.forall_mem_singleton.2 hquotable) routed_plainRoute configsFor_plainRoute
  obtain ⟨-, hfailed⟩ := serveInside_alone routed_plainRoute fun configs hconfigs c hc => by
    obtain rfl := Except.ok.inj (configsFor_plainRoute.symm.trans hconfigs)
    cases hc
  obtain ⟨f, happly⟩ := apply_of_beyond
    (List.mem_singleton_self (Policy.mk .sameOrigin "gruppe-ł" false)) (by decide +kernel)
  rw [(hfailed _ happly).2] at hnone
  cases hnone

end Http

end OpenerPolicy
