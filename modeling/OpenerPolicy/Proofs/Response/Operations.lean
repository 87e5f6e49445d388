/-
  File:      OpenerPolicy/Proofs/Response/Operations.lean
  Subject:   WHAT AN OPERATION DOES TO A RESPONSE, AND WHAT NO RUN OF OPERATIONS BREAKS.

  Every operation of the writer's interface is described once, as a rule, with all that it reads and
  all that it leaves behind. What holds of every writer is then shown rule by rule.

  * `Effect` -- the rules of the operations that succeed; `perform_eq_ok_iff` -- they are exactly
    what the writer does;
  * `Operation.refusal?` -- the fault of an operation on a claimed header; `perform_of_mem`,
    `exists_effect_of_not_mem` -- **an operation on a header by its name fails exactly if the header
    is claimed**; `perform_eq_error_iff` -- every way for an operation to fail;
  * `Writer.after`, `Writer.afterAll` -- the writer after an operation and after a run of them;
  * `Header.Sound`, `Writer.Sound` -- every entry stands under the key of its name, no key twice,
    and whoever holds a setter has claimed the header; `sound_afterAll` -- so it is after every run.
-/
import OpenerPolicy.Proofs.Text.Lowercase
import OpenerPolicy.Response.Writer

namespace OpenerPolicy

/-- **A key is its own key.** -/
@[simp] theorem headerKey_headerKey (name : String) : headerKey (headerKey name) = headerKey name :=
  Text.lowercase_lowercase name

/-! ## 1. Operations that succeed -/

namespace Header

theorem isClaimed_eq_true_iff (h : Header) (name : String) :
    h.isClaimed name = true ↔ headerKey name ∈ h.claims := by
  simp [isClaimed]

theorem isClaimed_eq_false_iff (h : Header) (name : String) :
    h.isClaimed name = false ↔ headerKey name ∉ h.claims := by
  simp [isClaimed]

/-- The entry of a header after a value was added to it. -/
def added (h : Header) (name value : String) : Entry :=
  match h.entries.find? (headerKey name) with
  | some e => { e with values := e.values ++ [value] }
  | none => ⟨name, [value]⟩

theorem openKey_of_mem {h : Header} {name : String} (hc : headerKey name ∈ h.claims) :
    h.openKey name = .error (.claimed name) :=
  if_pos ((isClaimed_eq_true_iff h name).2 hc)

theorem openKey_of_not_mem {h : Header} {name : String} (hc : headerKey name ∉ h.claims) :
    h.openKey name = .ok (headerKey name) := by
  rw [openKey, (isClaimed_eq_false_iff h name).2 hc]
  rfl

theorem claim_of_mem {h : Header} {name : String} (hc : headerKey name ∈ h.claims) :
    h.claim name = .error (.claimedTwice name) :=
  if_pos ((isClaimed_eq_true_iff h name).2 hc)

theorem claim_of_not_mem {h : Header} {name : String} (hc : headerKey name ∉ h.claims) :
    h.claim name = .ok
      (⟨h.entries.remove (headerKey name), h.claims ++ [headerKey name]⟩, ⟨headerKey name, name⟩) := by
  rw [claim, (isClaimed_eq_false_iff h name).2 hc]
  rfl

theorem set_of_not_mem {h : Header} {name : String} (hc : headerKey name ∉ h.claims)
    (value : String) :
    h.set name value = .ok ⟨h.entries.put (headerKey name) ⟨name, [value]⟩, h.claims⟩ := by
  rw [set, openKey_of_not_mem hc]
  rfl

theorem add_of_not_mem {h : Header} {name : String} (hc : headerKey name ∉ h.claims)
    (value : String) :
    h.add name value = .ok ⟨h.entries.put (headerKey name) (h.added name value), h.claims⟩ := by
  rw [add, openKey_of_not_mem hc, added]
  simp only [bind, Except.bind]
  cases h.entries.find? (headerKey name) <;> rfl

theorem delete_of_not_mem {h : Header} {name : String} (hc : headerKey name ∉ h.claims) :
    h.delete name = .ok ⟨h.entries.remove (headerKey name), h.claims⟩ := by
  rw [delete, openKey_of_not_mem hc]
  rfl

end Header

/-- The fault of an operation on a header by its name, where the header is claimed. It carries the
    name as the caller spelled it. -/
def Operation.refusal? : Operation → Option HeaderFault
  | .claim name => some (.claimedTwice name)
  | .set name _ => some (.claimed name)
  | .add name _ => some (.claimed name)
  | .delete name => some (.claimed name)
  | .assign _ _ => none
  | .write _ _ => none

namespace Writer

/-- **The rules of the operations that succeed.** -/
inductive Effect (w : Writer) : Operation → Writer → Prop where
  | claim (name : String) (hc : headerKey name ∉ w.header.claims) :
    Effect w (.claim name)
      { w with
        header := ⟨w.header.entries.remove (headerKey name), w.header.claims ++ [headerKey name]⟩
        setters := w.setters ++ [⟨headerKey name, name⟩] }
  | assign (index : Nat) (values : List String) (s : Setter) (hs : w.setters[index]? = some s) :
    Effect w (.assign index values) { w with header := w.header.assign s values }
  /-- A setter that was never handed out does nothing. -/
  | idle (index : Nat) (values : List String) (hs : w.setters[index]? = none) :
    Effect w (.assign index values) w
  | set (name value : String) (hc : headerKey name ∉ w.header.claims) :
    Effect w (.set name value)
      { w with header := ⟨w.header.entries.put (headerKey name) ⟨name, [value]⟩, w.header.claims⟩ }
  | add (name value : String) (hc : headerKey name ∉ w.header.claims) :
    Effect w (.add name value)
      { w with
        header := ⟨w.header.entries.put (headerKey name) (w.header.added name value), w.header.claims⟩ }
  | delete (name : String) (hc : headerKey name ∉ w.header.claims) :
    Effect w (.delete name)
      { w with header := ⟨w.header.entries.remove (headerKey name), w.header.claims⟩ }
  | write (body : List UInt8) (status : Option Int) (hw : w.status = none) :
    Effect w (.write body status) { w with body, status }

/-- What is done by a rule is what the writer does. -/
theorem Effect.perform {w w' : Writer} {o : Operation} (h : w.Effect o w') :
    w.perform o = .ok w' := by
  cases h with
  | claim name hc =>
    rw [Writer.perform, Header.claim_of_not_mem hc]
    rfl
  | assign index values s hs =>
    rw [Writer.perform, hs]
  | idle index values hs =>
    rw [Writer.perform, hs]
  | set name value hc =>
    rw [Writer.perform, Header.set_of_not_mem hc]
    rfl
  | add name value hc =>
    rw [Writer.perform, Header.add_of_not_mem hc]
    rfl
  | delete name hc =>
    rw [Writer.perform, Header.delete_of_not_mem hc]
    rfl
  | write body status hw =>
    rw [Writer.perform, Writer.write, hw]

/-- **An operation on a claimed header by its name is refused**, with the name as it was given. -/
theorem perform_of_mem {w : Writer} {o : Operation} {f : HeaderFault} (ho : o.refusal? = some f)
    (hc : headerKey f.name ∈ w.header.claims) : w.perform o = .error (.header f) := by
  cases o with
  | claim name =>
    obtain rfl := Option.some.inj ho
    have hc : headerKey name ∈ w.header.claims := hc
    rw [Writer.perform, Header.claim_of_mem hc]
    rfl
  | set name value =>
    obtain rfl := Option.some.inj ho
    have hc : headerKey name ∈ w.header.claims := hc
    rw [Writer.perform, Header.set, Header.openKey_of_mem hc]
    rfl
  | add name value =>
    obtain rfl := Option.some.inj ho
    have hc : headerKey name ∈ w.header.claims := hc
    rw [Writer.perform, Header.add, Header.openKey_of_mem hc]
    rfl
  | delete name =>
    obtain rfl := Option.some.inj ho
    have hc : headerKey name ∈ w.header.claims := hc
    rw [Writer.perform, Header.delete, Header.openKey_of_mem hc]
    rfl
  | assign index values => cases ho
  | write body status => cases ho

/-- **An operation on a header that is not claimed is not refused.** -/
theorem exists_effect_of_not_mem {w : Writer} {o : Operation} {f : HeaderFault}
    (ho : o.refusal? = some f) (hc : headerKey f.name ∉ w.header.claims) :
    ∃ w', w.Effect o w' := by
  cases o with
  | claim name =>
    obtain rfl := Option.some.inj ho
    exact ⟨_, .claim name hc⟩
  | set name value =>
    obtain rfl := Option.some.inj ho
    exact ⟨_, .set name value hc⟩
  | add name value =>
    obtain rfl := Option.some.inj ho
    exact ⟨_, .add name value hc⟩
  | delete name =>
    obtain rfl := Option.some.inj ho
    exact ⟨_, .delete name hc⟩
  | assign index values => cases ho
  | write body status => cases ho

/-- The call of a setter never fails. -/
theorem exists_effect_assign (w : Writer) (index : Nat) (values : List String) :
    ∃ w', w.Effect (.assign index values) w' := by
  cases hs : w.setters[index]? with
  | none => exact ⟨w, .idle index values hs⟩
  | some s => exact ⟨_, .assign index values s hs⟩

/-- **The rules are all that the writer does.** -/
theorem perform_eq_ok_iff (w w' : Writer) (o : Operation) :
    w.perform o = .ok w' ↔ w.Effect o w' := by
  refine ⟨fun h => ?_, Effect.perform⟩
  -- it is enough that some rule applies: what that rule does is what is performed
  suffices he : ∃ w'', w.Effect o w'' by
    obtain ⟨w'', he⟩ := he
    obtain rfl := Except.ok.inj (he.perform.symm.trans h)
    exact he
  cases hf : o.refusal? with
  | some f =>
    by_cases hc : headerKey f.name ∈ w.header.claims
    · rw [perform_of_mem hf hc] at h
      cases h
    · exact exists_effect_of_not_mem hf hc
  | none =>
    cases o with
    | claim name => cases hf
    | set name value => cases hf
    | add name value => cases hf
    | delete name => cases hf
    | assign index values => exact exists_effect_assign w index values
    | write body status =>
      cases hw : w.status with
      | none => exact ⟨_, .write body status hw⟩
      | some n =>
        rw [Writer.perform, Writer.write, hw] at h
        cases h

/-- **Why an operation fails**: the header that it names is claimed, or a status was written before. -/
theorem perform_eq_error_iff (w : Writer) (o : Operation) (f : Fault) :
    w.perform o = .error f ↔
      (∃ refusal, o.refusal? = some refusal ∧ headerKey refusal.name ∈ w.header.claims ∧
        f = .header refusal) ∨
      (∃ body status earlier, o = .write body status ∧ w.status = some earlier ∧
        f = .alreadyWritten earlier) := by
  constructor
  · intro h
    cases hr : o.refusal? with
    | some refusal =>
      by_cases hc : headerKey refusal.name ∈ w.header.claims
      · rw [perform_of_mem hr hc] at h
        exact Or.inl ⟨refusal, rfl, hc, (Except.error.inj h).symm⟩
      · obtain ⟨w', he⟩ := exists_effect_of_not_mem hr hc
        rw [he.perform] at h
        cases h
    | none =>
      cases o with
      | claim name => cases hr
      | set name value => cases hr
      | add name value => cases hr
      | delete name => cases hr
      | assign index values => cases h
      | write body status =>
        rw [Writer.perform, Writer.write] at h
        split at h
        · next earlier hw => exact Or.inr ⟨body, status, earlier, rfl, hw, (Except.error.inj h).symm⟩
        · cases h
  · rintro (⟨refusal, hr, hc, rfl⟩ | ⟨body, status, earlier, rfl, hw, rfl⟩)
    · exact perform_of_mem hr hc
    · rw [Writer.perform, Writer.write, hw]

/-! ## 2. Runs of operations -/

/-- The writer before anything was done, with the headers that are there at the start. -/
def start (initial : List (String × List String)) : Writer := { header := .ofList initial }

/-- **The writer after an operation**; one that fails changes nothing. -/
def after (w : Writer) (o : Operation) : Writer :=
  match w.perform o with
  | .ok w' => w'
  | .error _ => w

/-- The writer after operations, one after the other. -/
def afterAll (w : Writer) (ops : List Operation) : Writer := ops.foldl after w

@[simp] theorem afterAll_cons (w : Writer) (o : Operation) (ops : List Operation) :
    w.afterAll (o :: ops) = (w.after o).afterAll ops := rfl

theorem afterAll_append (w : Writer) (first second : List Operation) :
    w.afterAll (first ++ second) = (w.afterAll first).afterAll second :=
  List.foldl_append

theorem Effect.after_eq {w w' : Writer} {o : Operation} (h : w.Effect o w') : w.after o = w' := by
  rw [after, h.perform]

theorem after_of_error {w : Writer} {o : Operation} {f : Fault} (h : w.perform o = .error f) :
    w.after o = w := by
  rw [after, h]

/-- An operation follows a rule, or it changes nothing. -/
theorem effect_or_after_eq (w : Writer) (o : Operation) : w.Effect o (w.after o) ∨ w.after o = w := by
  cases h : w.perform o with
  | ok w' =>
    have he := (perform_eq_ok_iff w w' o).1 h
    exact Or.inl (he.after_eq ▸ he)
  | error f => exact Or.inr (after_of_error h)

/-- **What no rule breaks, no run breaks.** -/
theorem holds_afterAll {P : Writer → Prop}
    (step : ∀ (w w' : Writer) (o : Operation), P w → w.Effect o w' → P w') {w : Writer} (h : P w)
    (ops : List Operation) : P (w.afterAll ops) := by
  induction ops generalizing w with
  | nil => exact h
  | cons o rest ih =>
    rcases effect_or_after_eq w o with he | he
    · exact ih (step w _ o h he)
    · rw [afterAll_cons, he]
      exact ih h

end Writer

/-! ## 3. Soundness -/

/-- **A sound map of headers.** -/
structure Header.Sound (h : Header) : Prop where
  /-- Every entry stands under the key of its name. -/
  named : ∀ e ∈ h.entries, headerKey e.2.name = e.1
  nodup : h.entries.keys.Nodup
  claimsKeys : ∀ key ∈ h.claims, headerKey key = key
  claimsNodup : h.claims.Nodup

namespace Header

theorem sound_ofList (initial : List (String × List String)) : (ofList initial).Sound where
  named e he := by
    obtain ⟨⟨name, values⟩, -, rfl⟩ := List.mem_map.1 (Keyed.mem_of_mem_ofList he)
    rfl
  nodup := Keyed.nodup_keys_ofList _
  claimsKeys _ hk := absurd hk List.not_mem_nil
  claimsNodup := List.nodup_nil

theorem Sound.put {h : Header} (hs : h.Sound) {key : String} {e : Entry}
    (he : headerKey e.name = key) : Sound ⟨h.entries.put key e, h.claims⟩ where
  named e' he' := by
    rcases Keyed.mem_of_mem_put he' with rfl | he'
    · exact he
    · exact hs.named e' he'
  nodup := Keyed.nodup_keys_put _ _ _ hs.nodup
  claimsKeys := hs.claimsKeys
  claimsNodup := hs.claimsNodup

theorem Sound.remove {h : Header} (hs : h.Sound) (key : String) :
    Sound ⟨h.entries.remove key, h.claims⟩ where
  named e he := hs.named e ((Keyed.mem_remove _ _ _).1 he).1
  nodup := Keyed.nodup_keys_remove _ _ hs.nodup
  claimsKeys := hs.claimsKeys
  claimsNodup := hs.claimsNodup

theorem Sound.claim {h : Header} (hs : h.Sound) {name : String} (hc : headerKey name ∉ h.claims) :
    Sound ⟨h.entries.remove (headerKey name), h.claims ++ [headerKey name]⟩ where
  named := (hs.remove _).named
  nodup := (hs.remove _).nodup
  claimsKeys key hk := by
    rcases List.mem_append.1 hk with hk | hk
    · exact hs.claimsKeys key hk
    · obtain rfl := List.mem_singleton.1 hk
      exact headerKey_headerKey name
  claimsNodup := by
    refine List.nodup_append.2 ⟨hs.claimsNodup, List.pairwise_singleton _ _, ?_⟩
    rintro key hk key' hk' rfl
    exact hc (List.mem_singleton.1 hk' ▸ hk)

theorem Sound.assign {h : Header} (hs : h.Sound) {s : Setter} (hk : headerKey s.name = s.key)
    (values : List String) : (h.assign s values).Sound := by
  unfold Header.assign
  split
  · exact hs.remove s.key
  · exact hs.put hk

/-- The entry of a header after a value was added stands under the key of that header. -/
theorem Sound.key_added {h : Header} (hs : h.Sound) (name value : String) :
    headerKey (h.added name value).name = headerKey name := by
  unfold added
  cases he : h.entries.find? (headerKey name) with
  | none => rfl
  | some e =>
    have hm : (headerKey name, e) ∈ h.entries := (Keyed.find?_eq_some_iff hs.nodup _ _).1 he
    exact hs.named (headerKey name, e) hm

@[simp] theorem claims_assign (h : Header) (s : Setter) (values : List String) :
    (h.assign s values).claims = h.claims := by
  unfold assign
  split <;> rfl

end Header

/-- **A sound writer**: its headers are sound, and whoever holds a setter has claimed its header. -/
structure Writer.Sound (w : Writer) : Prop where
  header : w.header.Sound
  setterKeys : ∀ s ∈ w.setters, headerKey s.name = s.key
  settersClaimed : ∀ s ∈ w.setters, s.key ∈ w.header.claims

namespace Writer

theorem sound_start (initial : List (String × List String)) : (start initial).Sound where
  header := Header.sound_ofList initial
  setterKeys _ hs := absurd hs List.not_mem_nil
  settersClaimed _ hs := absurd hs List.not_mem_nil

/-- **Every rule keeps a writer sound.** -/
theorem Sound.effect {w w' : Writer} {o : Operation} (h : w.Sound) (he : w.Effect o w') :
    w'.Sound := by
  cases he with
  | claim name hc =>
    refine ⟨h.header.claim hc, fun s hs => ?_, fun s hs => ?_⟩
    · rcases List.mem_append.1 hs with hs | hs
      · exact h.setterKeys s hs
      · obtain rfl := List.mem_singleton.1 hs
        rfl
    · rcases List.mem_append.1 hs with hs | hs
      · exact List.mem_append_left _ (h.settersClaimed s hs)
      · obtain rfl := List.mem_singleton.1 hs
        exact List.mem_append_right _ (List.mem_singleton_self _)
  | assign index values s hs =>
    have hk := h.setterKeys s (List.mem_of_getElem? hs)
    refine ⟨h.header.assign hk values, h.setterKeys, fun s' hs' => ?_⟩
    rw [Header.claims_assign]
    exact h.settersClaimed s' hs'
  | idle => exact h
  | set name value hc => exact ⟨h.header.put rfl, h.setterKeys, h.settersClaimed⟩
  | add name value hc =>
    exact ⟨h.header.put (h.header.key_added name value), h.setterKeys, h.settersClaimed⟩
  | delete name hc => exact ⟨h.header.remove _, h.setterKeys, h.settersClaimed⟩
  | write body status hw => exact ⟨h.header, h.setterKeys, h.settersClaimed⟩

/-- **A writer is sound after every run.** -/
theorem sound_afterAll {w : Writer} (h : w.Sound) (ops : List Operation) : (w.afterAll ops).Sound :=
  holds_afterAll (fun _ _ _ hs he => hs.effect he) h ops

theorem sound_after {w : Writer} (h : w.Sound) (o : Operation) : (w.after o).Sound :=
  sound_afterAll h [o]

end Writer

end OpenerPolicy
