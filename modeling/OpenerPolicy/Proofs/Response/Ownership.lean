/-
  File:      OpenerPolicy/Proofs/Response/Ownership.lean
  Subject:   A CLAIMED HEADER BELONGS TO ITS CLAIM.

  The first claim of a header is the only one that succeeds. From then on the header holds what the
  setter of that claim was last given, and nothing else that is done to the response can change it.

  * `Writer.grants` -- the claims that succeed in a run; `claims_afterAll` -- they are the claimed
    headers, so no header is granted twice;
  * `Writer.Owned` -- the INVARIANT of an owned header: it is claimed, its setter is the only one
    for it, and it holds the values given; the setter may also have stayed with its owner, outside
    the list of setters;
  * `Owned.effect`, `Owned.afterAll` -- every rule keeps it, with the values that are given in it,
    and so does every run;
  * **`first_claim_owns_header`** -- who is refused, who is not, and what a header holds, after every
    run from every start.
-/
import OpenerPolicy.Proofs.Response.Operations

namespace OpenerPolicy

/-! ## 1. Claims that succeed -/

namespace Writer

/-- The key that an operation claims, if it is a claim and succeeds. -/
def granted (w : Writer) (o : Operation) : List String :=
  match o, w.perform o with
  | .claim name, .ok _ => [headerKey name]
  | _, _ => []

/-- **The keys of the claims that succeed in a run**, in order. -/
def grants (w : Writer) : List Operation → List String
  | [] => []
  | o :: rest => w.granted o ++ (w.after o).grants rest

theorem claims_after (w : Writer) (o : Operation) :
    (w.after o).header.claims = w.header.claims ++ w.granted o := by
  cases h : w.perform o with
  | error f =>
    have hg : w.granted o = [] := by
      unfold granted
      rw [h]
      cases o <;> rfl
    rw [after_of_error h, hg, List.append_nil]
  | ok w' =>
    unfold granted
    rw [h]
    have he := (perform_eq_ok_iff w w' o).1 h
    rw [he.after_eq]
    cases he with
    | claim name hc => rfl
    | assign index values s hs => exact (Header.claims_assign _ _ _).trans (List.append_nil _).symm
    | idle => exact (List.append_nil _).symm
    | set => exact (List.append_nil _).symm
    | add => exact (List.append_nil _).symm
    | delete => exact (List.append_nil _).symm
    | write => exact (List.append_nil _).symm

/-- **The claimed headers are those granted**, in the order of their claims. -/
theorem claims_afterAll (w : Writer) (ops : List Operation) :
    (w.afterAll ops).header.claims = w.header.claims ++ w.grants ops := by
  induction ops generalizing w with
  | nil => exact (List.append_nil _).symm
  | cons o rest ih => rw [afterAll_cons, ih, claims_after, grants, List.append_assoc]

end Writer

/-! ## 2. What a setter was last given -/

/-- The values of a header after an operation, where they come from the setter with a number alone. -/
def Operation.given (owner : Option Nat) (last : List String) : Operation → List String
  | .assign index values => if owner = some index then values else last
  | _ => last

/-- **What the setter with a number was last given in a run**, or what the header held before. -/
def lastGiven (owner : Option Nat) (last : List String) (ops : List Operation) : List String :=
  ops.foldl (Operation.given owner) last

/-- A setter that was not handed out gives nothing. -/
@[simp] theorem lastGiven_none (last : List String) (ops : List Operation) :
    lastGiven none last ops = last := by
  induction ops with
  | nil => rfl
  | cons o rest ih =>
    have ho : o.given none last = last := by cases o <;> rfl
    rw [lastGiven, List.foldl_cons, ho]
    exact ih

/-! ## 3. The invariant -/

namespace Header

theorem values_put (h : Header) (key : String) (e : Entry) (claims : List String) (name : String) :
    Header.values ⟨h.entries.put key e, claims⟩ name
      = if key = headerKey name then e.values else h.values name := by
  by_cases hk : key = headerKey name <;> simp [values, hk]

theorem values_remove (h : Header) (key : String) (claims : List String) (name : String) :
    Header.values ⟨h.entries.remove key, claims⟩ name
      = if key = headerKey name then [] else h.values name := by
  by_cases hk : key = headerKey name <;> simp [values, hk]

end Header

/-- **An owned header.** `owner` is the number of its setter among those handed out; none if the
    setter stayed with whoever claimed the header. -/
structure Writer.Owned (w : Writer) (owner : Option Nat) (key : String) (values : List String) :
    Prop where
  claimed : key ∈ w.header.claims
  alone : ∀ i s, w.setters[i]? = some s → (s.key = key ↔ owner = some i)
  handedOut : ∀ i, owner = some i → i < w.setters.length
  holds : ∀ name, headerKey name = key → w.header.values name = values

namespace Writer

/-- A claim that succeeds makes an owner. -/
theorem Sound.owned_of_claim {w w' : Writer} {name : String} (hw : w.Sound)
    (h : w.perform (.claim name) = .ok w') :
    w'.Owned (some w.setters.length) (headerKey name) [] := by
  have he := (perform_eq_ok_iff w w' _).1 h
  cases he with
  | claim _ hc =>
    refine ⟨List.mem_append_right _ (List.mem_singleton_self _), fun i s hs => ?_, fun i hi => ?_,
      fun name' hn => ?_⟩
    · rcases Nat.lt_or_ge i w.setters.length with hlt | hge
      · -- the earlier setters are for headers that were claimed before
        rw [List.getElem?_append_left hlt] at hs
        have hcl := hw.settersClaimed s (List.mem_of_getElem? hs)
        refine ⟨fun hk => absurd (hk ▸ hcl) hc, fun hi => ?_⟩
        exact absurd (Option.some.inj hi) (Nat.ne_of_gt hlt)
      · rw [List.getElem?_append_right hge, List.getElem?_singleton] at hs
        split at hs
        · next hi =>
          obtain rfl := Option.some.inj hs
          exact ⟨fun _ => congrArg some (by omega), fun _ => rfl⟩
        · cases hs
    · obtain rfl := Option.some.inj hi
      simp
    · rw [Header.values_remove, if_pos hn.symm]

/-- **Every rule keeps a header owned.** Only its setter changes what it holds. -/
theorem Owned.effect {w w' : Writer} {owner : Option Nat} {key : String} {values : List String}
    {o : Operation} (h : w.Owned owner key values) (he : w.Effect o w') :
    w'.Owned owner key (o.given owner values) := by
  -- an operation by name is on another header, since this one is claimed
  have other : ∀ {name name' : String}, headerKey name ∉ w.header.claims → headerKey name' = key →
      headerKey name ≠ headerKey name' :=
    fun hc hn hk => hc (hk.trans hn ▸ h.claimed)
  cases he with
  | claim name hc =>
    refine ⟨List.mem_append_left _ h.claimed, fun i s hs => ?_, fun i hi => ?_, fun name' hn => ?_⟩
    · rcases Nat.lt_or_ge i w.setters.length with hlt | hge
      · rw [List.getElem?_append_left hlt] at hs
        exact h.alone i s hs
      · rw [List.getElem?_append_right hge, List.getElem?_singleton] at hs
        split at hs
        · obtain rfl := Option.some.inj hs
          refine ⟨fun hk => absurd (show headerKey name = key from hk) fun hk => hc (hk ▸ h.claimed),
            fun hi => ?_⟩
          exact absurd (h.handedOut i hi) (Nat.not_lt.2 hge)
        · cases hs
    · have hlt := h.handedOut i hi
      simp only [List.length_append]
      omega
    · rw [Header.values_remove, if_neg (other hc hn)]
      exact h.holds name' hn
  | assign index values' s hs =>
    refine ⟨?_, h.alone, h.handedOut, fun name hn => ?_⟩
    · rw [Header.claims_assign]
      exact h.claimed
    · rw [Header.values_assign, hn, Operation.given]
      by_cases hk : s.key = key
      · rw [if_pos hk, if_pos ((h.alone index s hs).1 hk)]
      · rw [if_neg hk, if_neg fun ho => hk ((h.alone index s hs).2 ho)]
        exact h.holds name hn
  | idle index values' hs =>
    have ho : owner ≠ some index := fun ho =>
      Nat.not_lt.2 (List.getElem?_eq_none_iff.1 hs) (h.handedOut index ho)
    rw [Operation.given, if_neg ho]
    exact h
  | set name value hc =>
    refine ⟨h.claimed, h.alone, h.handedOut, fun name' hn => ?_⟩
    rw [Header.values_put, if_neg (other hc hn)]
    exact h.holds name' hn
  | add name value hc =>
    refine ⟨h.claimed, h.alone, h.handedOut, fun name' hn => ?_⟩
    rw [Header.values_put, if_neg (other hc hn)]
    exact h.holds name' hn
  | delete name hc =>
    refine ⟨h.claimed, h.alone, h.handedOut, fun name' hn => ?_⟩
    rw [Header.values_remove, if_neg (other hc hn)]
    exact h.holds name' hn
  | write body status hw => exact ⟨h.claimed, h.alone, h.handedOut, h.holds⟩

/-- An operation that fails gives nothing: the call of a setter does not fail. -/
theorem given_of_error {w : Writer} {o : Operation} {f : Fault} (h : w.perform o = .error f)
    (owner : Option Nat) (last : List String) : o.given owner last = last := by
  cases o with
  | assign index values => cases h
  | claim name => rfl
  | set name value => rfl
  | add name value => rfl
  | delete name => rfl
  | write body status => rfl

theorem Owned.after {w : Writer} {owner : Option Nat} {key : String} {values : List String}
    (h : w.Owned owner key values) (o : Operation) :
    (w.after o).Owned owner key (o.given owner values) := by
  cases hp : w.perform o with
  | ok w' =>
    have he := (perform_eq_ok_iff w w' o).1 hp
    rw [he.after_eq]
    exact h.effect he
  | error f =>
    rw [after_of_error hp, given_of_error hp]
    exact h

/-- **A header stays owned in every run**, and holds what its setter was last given. -/
theorem Owned.afterAll {w : Writer} {owner : Option Nat} {key : String} {values : List String}
    (h : w.Owned owner key values) (ops : List Operation) :
    (w.afterAll ops).Owned owner key (lastGiven owner values ops) := by
  induction ops generalizing w values with
  | nil => exact h
  | cons o rest ih => exact ih (h.after o)

/-! ## 4. The first claim -/

/-- **The first claim of a header owns it**, whatever was there at the start and in whatever order
    headers are claimed, set, added to, deleted and written by setters, under any spellings:

    * no header is granted twice, and those granted are the ones that are claimed;
    * an operation on a header by its name is refused, with the name as it was spelled, if the
      header is claimed, and changes nothing then; it succeeds otherwise; and setters never fail;
    * once a claim has succeeded, the header holds what the setter it handed out was last given. -/
theorem first_claim_owns_header (initial : List (String × List String)) (ops : List Operation) :
    let w := (start initial).afterAll ops
    ((start initial).grants ops).Nodup ∧
    (∀ name, w.header.isClaimed name = true ↔ headerKey name ∈ (start initial).grants ops) ∧
    (∀ o f, o.refusal? = some f → w.header.isClaimed f.name = true →
      w.perform o = .error (.header f) ∧ w.after o = w) ∧
    (∀ o f, o.refusal? = some f → w.header.isClaimed f.name = false → ∃ w', w.perform o = .ok w') ∧
    (∀ index values, ∃ w', w.perform (.assign index values) = .ok w') ∧
    (∀ before spelling later granted, ops = before ++ .claim spelling :: later →
      ((start initial).afterAll before).perform (.claim spelling) = .ok granted →
      ∃ setter, granted.setters = ((start initial).afterAll before).setters ++ [setter] ∧
        ∀ name, headerKey name = headerKey spelling →
          w.header.isClaimed name = true ∧
          w.header.values name
            = lastGiven (some ((start initial).afterAll before).setters.length) [] later) := by
  intro w
  have hclaims : w.header.claims = (start initial).grants ops := claims_afterAll (start initial) ops
  have hsound : w.Sound := sound_afterAll (sound_start initial) ops
  refine ⟨hclaims ▸ hsound.header.claimsNodup, fun name => ?_, fun o f ho hc => ?_,
    fun o f ho hc => ?_, fun index values => ?_, fun before spelling later granted hops hg => ?_⟩
  · rw [Header.isClaimed_eq_true_iff, hclaims]
  · have hf := perform_of_mem ho ((Header.isClaimed_eq_true_iff _ _).1 hc)
    exact ⟨hf, after_of_error hf⟩
  · obtain ⟨w', he⟩ := exists_effect_of_not_mem ho ((Header.isClaimed_eq_false_iff _ _).1 hc)
    exact ⟨w', he.perform⟩
  · obtain ⟨w', he⟩ := exists_effect_assign w index values
    exact ⟨w', he.perform⟩
  · have howned := (sound_afterAll (sound_start initial) before).owned_of_claim hg
    have he := (perform_eq_ok_iff _ _ _).1 hg
    have hw : w = granted.afterAll later := by
      show (start initial).afterAll ops = granted.afterAll later
      rw [hops, afterAll_append, afterAll_cons, he.after_eq]
    have hend := howned.afterAll later
    rw [← hw] at hend
    refine ⟨⟨headerKey spelling, spelling⟩, ?_, fun name hn => ⟨?_, hend.holds name hn⟩⟩
    · cases he with
      | claim _ hc => rfl
    · rw [Header.isClaimed_eq_true_iff, hn]
      exact hend.claimed

/-- A header that is there at the start is dropped by its claim; then a direct change and a second
    claim are refused, and the setter alone counts. -/
theorem owned_frame_options :
    ((start [("x-frame-options", ["NONE"])]).afterAll
        [.claim "X-Frame-Options", .set "x-frame-OPTIONS" "ALLOW", .assign 0 ["DENY"],
          .claim "x-frame-options"]).header.values "X-FRAME-OPTIONS" = ["DENY"] := by
  obtain ⟨-, -, -, -, -, h⟩ := first_claim_owns_header [("x-frame-options", ["NONE"])]
    [.claim "X-Frame-Options", .set "x-frame-OPTIONS" "ALLOW", .assign 0 ["DENY"],
      .claim "x-frame-options"]
  obtain ⟨_, -, hv⟩ := h [] "X-Frame-Options" _ _ rfl
    (Effect.perform (.claim "X-Frame-Options" List.not_mem_nil))
  exact (hv "X-FRAME-OPTIONS" (by decide +kernel)).2

end Writer

end OpenerPolicy
