/-
  File:      OpenerPolicy/Proofs/Policy/Recovery.lean
  Subject:   DIRECTIVES TELL THEIR POLICIES.

  A directive is not escaped: its group may hold quotes, semicolons and what looks like another
  directive. It can be read back all the same, because no token has a semicolon: the first one ends
  the token, and what is left is the mark before the group, the group, and one quote. So nothing is
  lost when the directives of both headers are made of policies.

  * `Policy.rest`, `chars_directive` -- a directive is a token and a rest that a semicolon starts;
  * `Policy.ofDirective?` -- reads a directive; **`ofDirective?_directive`** -- every policy comes
    back, whatever its group;
  * `map_ofDirective?` -- so do the policies of one header;
  * **`same_directives_iff_same_policies`** -- policies give the same directives exactly if they are
    the same on either header, for interceptors and for overrides;
  * `directives_of_directives?` -- settings with text alone have the directives of an interceptor
    that is made of their policies.
-/
import OpenerPolicy.Pipeline.Interceptor
import OpenerPolicy.Proofs.Json.Strings
import OpenerPolicy.Settings.Apply

namespace OpenerPolicy

/-! ## 1. The parts of a directive -/

/-- What stands between the token of a directive and its group. -/
def groupMark : List Char := ("; " ++ reportToParameter ++ " \"").toList

namespace Policy

/-- What follows the token in a directive. -/
def rest (p : Policy) : List Char :=
  if p.group = "" then [] else groupMark ++ p.group.toList ++ ['"']

theorem chars_directive (p : Policy) : p.directive.toList = p.mode.token.toList ++ p.rest := by
  unfold directive rest
  by_cases hg : p.group = ""
  · rw [if_pos hg, if_pos hg, List.append_nil]
  · rw [if_neg hg, if_neg hg]
    simp only [String.toList_append, groupMark, List.append_assoc]
    rfl

/-- **No token has a semicolon.** -/
theorem ne_semicolon_of_mem_token {m : Mode} {c : Char} (hc : c ∈ m.token.toList) : c ≠ ';' := by
  have hnot : ';' ∉ m.token.toList := by cases m <;> decide
  exact fun heq => hnot (heq ▸ hc)

/-- A semicolon starts what follows the token. -/
theorem rest_cases (p : Policy) : p.rest = [] ∨ ∃ more, p.rest = ';' :: more := by
  unfold rest
  by_cases hg : p.group = ""
  · exact Or.inl (if_pos hg)
  · exact Or.inr ⟨_, if_neg hg⟩

/-- **The token ends where the first semicolon stands.** -/
theorem span_directive (p : Policy) :
    p.directive.toList.takeWhile (· ≠ ';') = p.mode.token.toList ∧
      p.directive.toList.dropWhile (· ≠ ';') = p.rest := by
  have htoken : ∀ c ∈ p.mode.token.toList, decide (c ≠ ';') = true :=
    fun c hc => decide_eq_true (ne_semicolon_of_mem_token hc)
  rw [chars_directive, List.takeWhile_append_of_pos htoken, List.dropWhile_append_of_pos htoken]
  rcases p.rest_cases with hrest | ⟨more, hrest⟩
  · rw [hrest]
    exact ⟨List.append_nil _, rfl⟩
  · rw [hrest]
    exact ⟨List.append_nil _, rfl⟩

/-- The group stands between the mark and the last quote. -/
theorem group_rest (p : Policy) :
    String.ofList (p.rest.drop groupMark.length).dropLast = p.group := by
  unfold rest
  by_cases hg : p.group = ""
  · rw [if_pos hg, hg]
    rfl
  · rw [if_neg hg, List.append_assoc, List.drop_left, List.dropLast_concat, String.ofList_toList]

/-! ## 2. Reading a directive -/

/-- **The policy of a directive** on one of the two headers: the token up to the first semicolon, and
    the group after the mark, without the quote at the end. -/
def ofDirective? (reportOnly : Bool) (directive : String) : Option Policy :=
  let token := directive.toList.takeWhile (· ≠ ';')
  let rest := directive.toList.dropWhile (· ≠ ';')
  (Mode.ofToken? (String.ofList token)).map fun mode =>
    ⟨mode, String.ofList (rest.drop groupMark.length).dropLast, reportOnly⟩

/-- **Every policy comes back from its directive**, whatever its group. -/
theorem ofDirective?_directive (p : Policy) : ofDirective? p.reportOnly p.directive = some p := by
  obtain ⟨htoken, hrest⟩ := p.span_directive
  simp only [ofDirective?, htoken, hrest, String.ofList_toList, Mode.ofToken?_token,
    Option.map_some, group_rest]

/-- **Policies of one header come back from their directives.** -/
theorem map_ofDirective? {reportOnly : Bool} {policies : List Policy}
    (h : ∀ p ∈ policies, p.reportOnly = reportOnly) :
    (policies.map directive).map (ofDirective? reportOnly) = policies.map some := by
  rw [List.map_map]
  refine List.map_congr_left fun p hp => ?_
  rw [Function.comp_apply, ← h p hp, ofDirective?_directive]

/-- Policies of one header are known by their directives. -/
theorem eq_of_map_directive {reportOnly : Bool} {policies others : List Policy}
    (hp : ∀ p ∈ policies, p.reportOnly = reportOnly) (ho : ∀ p ∈ others, p.reportOnly = reportOnly)
    (h : policies.map directive = others.map directive) : policies = others := by
  have hread : policies.map some = others.map some := by
    rw [← map_ofDirective? hp, ← map_ofDirective? ho, h]
  exact (List.map_inj_right fun _ _ => Option.some.inj).1 hread

end Policy

/-! ## 3. The directives of both headers -/

/-- Policies that are the same on either header, in the same order there. -/
def SamePolicies (policies others : List Policy) : Prop :=
  policies.filter (!·.reportOnly) = others.filter (!·.reportOnly) ∧
    policies.filter (·.reportOnly) = others.filter (·.reportOnly)

theorem Directives.ofPolicies_eq_iff (policies others : List Policy) :
    ofPolicies policies = ofPolicies others ↔ SamePolicies policies others := by
  have henforced : ∀ l : List Policy, ∀ p ∈ l.filter (!·.reportOnly), p.reportOnly = false := by
    intro l p hp
    simpa using (List.mem_filter.1 hp).2
  have hreported : ∀ l : List Policy, ∀ p ∈ l.filter (·.reportOnly), p.reportOnly = true :=
    fun l p hp => (List.mem_filter.1 hp).2
  constructor
  · intro h
    have h₁ := congrArg Directives.enforced h
    have h₂ := congrArg Directives.reportOnly h
    exact ⟨Policy.eq_of_map_directive (henforced policies) (henforced others) h₁,
      Policy.eq_of_map_directive (hreported policies) (hreported others) h₂⟩
  · rintro ⟨h₁, h₂⟩
    rw [ofPolicies, ofPolicies, h₁, h₂]

/-- **Nothing is lost when policies become directives**, whatever their groups. Two interceptors made
    of policies are equal exactly if the policies are the same on either header, in the same order
    there; so are two overrides; and an override has the directives of the interceptor that is made of
    the same policies. -/
theorem same_directives_iff_same_policies {ρ : Type} (policies others : List Policy) :
    (Interceptor.opener (ρ := ρ) (.ofPolicies policies) = .opener (.ofPolicies others) ↔
      SamePolicies policies others) ∧
    (Config.override (.ofPolicies policies) = .override (.ofPolicies others) ↔
      SamePolicies policies others) ∧
    ∀ d, Config.override (.ofPolicies policies) = .override d ↔
      Interceptor.opener (ρ := ρ) (.ofPolicies policies) = .opener d := by
  rw [← Directives.ofPolicies_eq_iff]
  refine ⟨⟨Interceptor.opener.inj, congrArg _⟩, ⟨Config.override.inj, congrArg _⟩, fun d => ?_⟩
  exact ⟨fun h => congrArg _ (Config.override.inj h), fun h => congrArg _ (Interceptor.opener.inj h)⟩

/-- A group that ends its own quotation and goes on like a directive comes back as it was. -/
example : Policy.ofDirective? false "same-origin; report-to \"a\"; report-to \"b\""
    = some ⟨.sameOrigin, "a\"; report-to \"b", false⟩ := by decide +kernel

/-! ## 4. Policies of settings -/

/-- The form a policy has in settings. -/
def Policy.settings (p : Policy) : PolicySettings := ⟨p.mode, .whole p.group, p.reportOnly⟩

theorem PolicySettings.eq_settings_of_policy? {p : PolicySettings} {q : Policy}
    (h : p.policy? = some q) : p = q.settings := by
  obtain ⟨mode, group, reportOnly⟩ := p
  cases group with
  | torn points => cases h
  | whole group =>
    obtain rfl := Option.some.inj h
    rfl

/-- A policy has the same directive in settings. -/
theorem Policy.directive_settings (p : Policy) : p.settings.directive = .whole p.directive := by
  unfold PolicySettings.directive Policy.directive
  by_cases hg : p.group = ""
  · have hempty : p.settings.group.isEmpty = true := by
      show (Json.Text.whole p.group).isEmpty = true
      rw [hg]
      rfl
    rw [if_pos hempty, if_pos hg]
    rfl
  · have hfull : ¬p.settings.group.isEmpty = true := by
      show ¬p.group.isEmpty = true
      rwa [String.isEmpty_iff]
    rw [if_neg hfull, if_neg hg, ← Json.ofPoints_points]
    simp only [Text.points, String.toList_append, List.map_append]
    rfl

theorem OpenerSettings.policies_eq_settings {s : OpenerSettings} {policies : List Policy}
    (h : s.policies.mapM PolicySettings.policy? = some policies) :
    s.policies = policies.map Policy.settings := by
  obtain ⟨l⟩ := s
  induction l generalizing policies with
  | nil =>
    obtain rfl := Option.some.inj h
    rfl
  | cons p rest ih =>
    obtain ⟨q, hq, hrest⟩ := Option.bind_eq_some_iff.1 (List.mapM_cons.symm.trans h)
    obtain ⟨others, hothers, heq⟩ := Option.bind_eq_some_iff.1 hrest
    obtain rfl := Option.some.inj heq
    show p :: rest = q.settings :: others.map Policy.settings
    rw [PolicySettings.eq_settings_of_policy? hq]
    exact congrArg _ (ih hothers)

/-- **Settings with text alone have the directives of an interceptor** that is made of their
    policies. -/
theorem OpenerSettings.directives_of_directives? {s : OpenerSettings} {d : Directives}
    (h : s.directives? = some d) :
    s.enforced = d.enforced.map .whole ∧ s.reportOnly = d.reportOnly.map .whole := by
  obtain ⟨policies, hpolicies, rfl⟩ := Option.map_eq_some_iff.1 h
  have hdirective : PolicySettings.directive ∘ Policy.settings
      = Json.Text.whole ∘ Policy.directive := funext Policy.directive_settings
  rw [OpenerSettings.enforced, OpenerSettings.reportOnly, policies_eq_settings hpolicies]
  simp only [Directives.ofPolicies, List.filter_map, List.map_map, hdirective]
  exact ⟨rfl, rfl⟩

end OpenerPolicy
