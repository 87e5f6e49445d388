/-
  File:      OpenerPolicy/Proofs/Response/Forgetting.lean
  Subject:   A CLAIM ERASES THE HISTORY OF ITS HEADER.

  What was written to a header before it is claimed leaves no trace: the headers are then the same as if
  it had never been there and nothing had been written to it.

  * `Operation.writesTo` -- the direct changes of a header;
  * `Header.forget`, `Writer.forget` -- without the header under a key, unless it is claimed;
  * `forget_after_of_writes`, **`forget_after_of_other`** -- a direct change of the header is forgotten,
    and every other operation does to the forgetful writer what it does to the other;
    `forget_afterAll`, `forget_start` -- and so over a run and from the start on;
  * **`claim_erases_history`** -- a claim that succeeds gives the same writer without all that was
    written to its header before, and so does everything that is done later.
-/
import OpenerPolicy.Proofs.Response.Operations

namespace OpenerPolicy

/-! ## 1. Entries that are never put -/

namespace Keyed

variable {κ α : Type} [DecidableEq κ]

/-- Taking out a key is never to have put it. -/
theorem remove_ofList (entries : List (κ × α)) (k : κ) :
    (ofList entries).remove k = ofList (entries.filter fun e => decide (e.1 ≠ k)) := by
  have go : ∀ (entries : List (κ × α)) (l : Keyed κ α),
      (entries.foldl (fun l e => put l e.1 e.2) l).remove k
        = (entries.filter fun e => decide (e.1 ≠ k)).foldl (fun l e => put l e.1 e.2)
            (l.remove k) := by
    intro entries
    induction entries with
    | nil => exact fun _ => rfl
    | cons e rest ih =>
      intro l
      rw [List.foldl_cons, ih, List.filter_cons]
      by_cases hk : e.1 = k
      · rw [if_neg (by simpa using hk), ← hk, remove_put_self]
      · rw [if_pos (decide_eq_true hk), List.foldl_cons, remove_put_of_ne l hk]
  exact go entries []

end Keyed

/-! ## 2. Direct changes of a header -/

/-- **Whether an operation is a direct change of the header under a key**, under any spelling. -/
def Operation.writesTo (key : String) : Operation → Bool
  | .claim _ => false
  | .assign _ _ => false
  | .set name _ => decide (headerKey name = key)
  | .add name _ => decide (headerKey name = key)
  | .delete name => decide (headerKey name = key)
  | .write _ _ => false

/-! ## 3. Forgetting a header -/

namespace Header

/-- **The headers without the one under a key**, unless it is claimed. -/
def forget (h : Header) (key : String) : Header :=
  if key ∈ h.claims then h else ⟨h.entries.remove key, h.claims⟩

section Forget

variable (h : Header) (key : String)

theorem forget_of_mem {h : Header} {key : String} (hk : key ∈ h.claims) : h.forget key = h := if_pos hk

theorem forget_of_not_mem {h : Header} {key : String} (hk : key ∉ h.claims) :
    h.forget key = ⟨h.entries.remove key, h.claims⟩ := if_neg hk

@[simp] theorem claims_forget : (h.forget key).claims = h.claims := by
  unfold forget
  split <;> rfl

/-- What is put under a key that is not claimed is forgotten. -/
theorem forget_put_self {h : Header} {key : String} (hk : key ∉ h.claims) (e : Entry) :
    forget ⟨h.entries.put key e, h.claims⟩ key = h.forget key := by
  rw [forget_of_not_mem hk, forget, if_neg hk, Keyed.remove_put_self]

theorem forget_remove_self {h : Header} {key : String} (hk : key ∉ h.claims) :
    forget ⟨h.entries.remove key, h.claims⟩ key = h.forget key := by
  rw [forget_of_not_mem hk, forget, if_neg hk, Keyed.remove_remove_self]

theorem forget_put_of_ne {subject : String} (hne : subject ≠ key) (e : Entry) :
    forget ⟨h.entries.put subject e, h.claims⟩ key
      = ⟨(h.forget key).entries.put subject e, (h.forget key).claims⟩ := by
  unfold forget
  split
  · rfl
  · rw [Keyed.remove_put_of_ne h.entries hne]

theorem forget_remove (subject : String) :
    forget ⟨h.entries.remove subject, h.claims⟩ key
      = ⟨(h.forget key).entries.remove subject, (h.forget key).claims⟩ := by
  unfold forget
  split
  · rfl
  · rw [Keyed.remove_remove_comm]

/-- A claim drops its header whether it is forgotten before or not. -/
theorem forget_claim (subject : String) :
    forget ⟨h.entries.remove subject, h.claims ++ [subject]⟩ key
      = ⟨(h.forget key).entries.remove subject, (h.forget key).claims ++ [subject]⟩ := by
  by_cases hk : key ∈ h.claims
  · rw [forget_of_mem hk]
    exact forget_of_mem (List.mem_append_left _ hk)
  · rw [forget_of_not_mem hk]
    by_cases heq : subject = key
    · subst heq
      rw [Keyed.remove_remove_self]
      exact forget_of_mem (List.mem_append_right _ (List.mem_singleton_self subject))
    · have hk' : key ∉ h.claims ++ [subject] := by
        rw [List.mem_append, List.mem_singleton, not_or]
        exact ⟨hk, Ne.symm heq⟩
      rw [Keyed.remove_remove_comm]
      exact forget_of_not_mem hk'

/-- A setter writes a claimed header, which is not forgotten, or another one. -/
theorem forget_assign {s : Setter} (hs : s.key ∈ h.claims) (values : List String) :
    (h.assign s values).forget key = (h.forget key).assign s values := by
  by_cases hk : key ∈ h.claims
  · rw [forget_of_mem hk, forget_of_mem (by rwa [claims_assign])]
  · have hne : s.key ≠ key := fun heq => hk (heq ▸ hs)
    unfold assign
    split
    · exact h.forget_remove key s.key
    · exact h.forget_put_of_ne key hne ⟨s.name, values⟩

/-- A value that is added to another header finds the same entry there. -/
theorem added_forget {name : String} (hne : headerKey name ≠ key) (value : String) :
    (h.forget key).added name value = h.added name value := by
  unfold forget
  split
  · rfl
  · rw [added, added, Keyed.find?_remove, if_neg (Ne.symm hne)]

end Forget

end Header

namespace Writer

/-- The writer without the header under a key, unless it is claimed. -/
def forget (w : Writer) (key : String) : Writer := { w with header := w.header.forget key }

/-- **Whether an operation fails, and how, depends on the claimed names and the status alone.** -/
theorem perform_of_error {w v : Writer} {o : Operation} {f : Fault}
    (hclaims : v.header.claims = w.header.claims) (hstatus : v.status = w.status)
    (h : w.perform o = .error f) : v.perform o = .error f := by
  rw [perform_eq_error_iff] at h ⊢
  rw [hclaims, hstatus]
  exact h

/-- **A direct change of the header is forgotten.** -/
theorem forget_after_of_writes {w : Writer} {o : Operation} {key : String}
    (ho : o.writesTo key = true) : (w.after o).forget key = w.forget key := by
  rcases effect_or_after_eq w o with he | he
  · generalize w.after o = w' at he
    cases he with
    | claim => cases ho
    | assign => cases ho
    | idle => cases ho
    | set name value hc =>
      obtain rfl := of_decide_eq_true ho
      rw [forget, Header.forget_put_self hc]
      rfl
    | add name value hc =>
      obtain rfl := of_decide_eq_true ho
      rw [forget, Header.forget_put_self hc]
      rfl
    | delete name hc =>
      obtain rfl := of_decide_eq_true ho
      rw [forget, Header.forget_remove_self hc]
      rfl
    | write => cases ho
  · rw [he]

/-- **Every other rule does the same without the header.** -/
theorem Effect.forget {w w' : Writer} {o : Operation} {key : String} (hw : w.Sound)
    (ho : o.writesTo key = false) (he : w.Effect o w') : (w.forget key).Effect o (w'.forget key) := by
  -- what is claimed is not forgotten, so the condition of a rule carries over
  have hfree : ∀ {name : String}, headerKey name ∉ w.header.claims →
      headerKey name ∉ (w.forget key).header.claims := by
    intro name hc
    rwa [Writer.forget, Header.claims_forget]
  cases he with
  | claim name hc =>
    show (w.forget key).Effect _ ⟨Header.forget _ key, _, _, _⟩
    rw [Header.forget_claim]
    exact .claim name (hfree hc)
  | assign index values s hs =>
    have hclaimed := hw.settersClaimed s (List.mem_of_getElem? hs)
    show (w.forget key).Effect _ ⟨Header.forget _ key, _, _, _⟩
    rw [Header.forget_assign _ _ hclaimed]
    exact .assign index values s hs
  | idle index values hs => exact .idle index values hs
  | set name value hc =>
    show (w.forget key).Effect _ ⟨Header.forget _ key, _, _, _⟩
    rw [Header.forget_put_of_ne _ _ (of_decide_eq_false ho)]
    exact .set name value (hfree hc)
  | add name value hc =>
    have hne : headerKey name ≠ key := of_decide_eq_false ho
    show (w.forget key).Effect _ ⟨Header.forget _ key, _, _, _⟩
    rw [Header.forget_put_of_ne _ _ hne, ← Header.added_forget _ _ hne]
    exact .add name value (hfree hc)
  | delete name hc =>
    show (w.forget key).Effect _ ⟨Header.forget _ key, _, _, _⟩
    rw [Header.forget_remove]
    exact .delete name (hfree hc)
  | write body status hs => exact .write body status hs

theorem forget_after_of_other {w : Writer} (hw : w.Sound) {o : Operation} {key : String}
    (ho : o.writesTo key = false) : (w.after o).forget key = (w.forget key).after o := by
  cases hp : w.perform o with
  | ok w' =>
    have he := (perform_eq_ok_iff w w' o).1 hp
    rw [he.after_eq, (he.forget hw ho).after_eq]
  | error f =>
    have hf : (w.forget key).perform o = .error f :=
      perform_of_error (Header.claims_forget _ _) rfl hp
    rw [after_of_error hp, after_of_error hf]

/-! ## 4. Runs -/

/-- **A run forgets the header as if nothing had been written to it.** -/
theorem forget_afterAll {w : Writer} (hw : w.Sound) (ops : List Operation) (key : String) :
    (w.afterAll ops).forget key = (w.forget key).afterAll (ops.filter fun o => !o.writesTo key) := by
  induction ops generalizing w with
  | nil => rfl
  | cons o rest ih =>
    have hnext : (w.after o).Sound := sound_after hw o
    rw [afterAll_cons, ih hnext, List.filter_cons]
    cases ho : o.writesTo key with
    | true => rw [forget_after_of_writes ho, if_neg (by decide)]
    | false => rw [forget_after_of_other hw ho, if_pos (by decide), afterAll_cons]

theorem forget_start (initial : List (String × List String)) (key : String) :
    (start initial).forget key = start (initial.filter fun e => decide (headerKey e.1 ≠ key)) := by
  rw [forget, Header.forget_of_not_mem List.not_mem_nil]
  show ({ header := ⟨(Keyed.ofList _).remove key, []⟩ } : Writer) = _
  rw [Keyed.remove_ofList, List.filter_map]
  rfl

/-- Once a claim was tried, the header is claimed, so nothing of it is forgotten. -/
theorem forget_after_claim (w : Writer) (name : String) :
    (w.after (.claim name)).forget (headerKey name) = w.after (.claim name) := by
  have hmem : headerKey name ∈ (w.after (.claim name)).header.claims := by
    by_cases hc : headerKey name ∈ w.header.claims
    · have hf : w.perform (.claim name) = .error (.header (.claimedTwice name)) := perform_of_mem rfl hc
      rw [after_of_error hf]
      exact hc
    · rw [(Effect.claim name hc).after_eq]
      exact List.mem_append_right _ (List.mem_singleton_self _)
  rw [forget, Header.forget_of_mem hmem]

/-- What a claim leaves behind depends on the history without its header alone. -/
theorem after_claim_eq (initial : List (String × List String)) (ops : List Operation) (name : String) :
    ((start initial).afterAll ops).after (.claim name)
      = ((start (initial.filter fun e => decide (headerKey e.1 ≠ headerKey name))).afterAll
          (ops.filter fun o => !o.writesTo (headerKey name))).after (.claim name) := by
  have hw : ((start initial).afterAll ops).Sound := sound_afterAll (sound_start initial) ops
  rw [← forget_start, ← forget_afterAll (sound_start initial), ← forget_after_of_other hw rfl,
    forget_after_claim]

/-- **A claim erases the history of its header**, whatever was there at the start and in whatever
    order headers were claimed, set, added to, deleted and written by setters before:

    * without the header at the start, and without all that set it, added to it or deleted it under
      any spelling, the claim succeeds just so and gives the same writer;
    * so every history that differs in this alone leads to the same writer, whatever is done later. -/
theorem claim_erases_history (initial : List (String × List String)) (ops : List Operation)
    (name : String) (granted : Writer)
    (h : ((start initial).afterAll ops).perform (.claim name) = .ok granted) :
    let initial' := initial.filter fun e => decide (headerKey e.1 ≠ headerKey name)
    let ops' := ops.filter fun o => !o.writesTo (headerKey name)
    ((start initial').afterAll ops').perform (.claim name) = .ok granted ∧
    ∀ (other : List (String × List String)) (otherOps : List Operation),
      other.filter (fun e => decide (headerKey e.1 ≠ headerKey name)) = initial' →
      otherOps.filter (fun o => !o.writesTo (headerKey name)) = ops' →
      ∀ later, (start other).afterAll (otherOps ++ .claim name :: later)
        = (start initial).afterAll (ops ++ .claim name :: later) := by
  intro initial' ops'
  have hw : ((start initial).afterAll ops).Sound := sound_afterAll (sound_start initial) ops
  have he := (perform_eq_ok_iff _ _ _).1 h
  refine ⟨?_, fun other otherOps hstart hops later => ?_⟩
  · have hclaim : (forget _ (headerKey name)).Effect (.claim name) (forget _ (headerKey name)) :=
      he.forget hw rfl
    have hforget := hclaim.perform
    rw [← he.after_eq, forget_after_claim, he.after_eq, forget_afterAll (sound_start initial),
      forget_start] at hforget
    exact hforget
  · rw [afterAll_append, afterAll_append, afterAll_cons, afterAll_cons, after_claim_eq other,
      after_claim_eq initial, hstart, hops]

/-- What is written to a header that is there at the start, before it is claimed. -/
def framingRun : List Operation :=
  [.add "X-FRAME-OPTIONS" "b", .set "ETag" "1", .delete "x-frame-options", .set "X-Frame-options" "c"]

/-- Framing that is there at the start, is added to, deleted and set anew leaves no trace. -/
theorem framing_erased :
    ((start [("Vary", ["Accept"])]).afterAll [.set "ETag" "1"]).perform (.claim "X-Frame-Options")
      = ((start [("x-frame-options", ["DENY"]), ("Vary", ["Accept"])]).afterAll framingRun).perform
          (.claim "X-Frame-Options") := by
  have hfree : headerKey "X-Frame-Options" ∉ ((start [("x-frame-options", ["DENY"]),
      ("Vary", ["Accept"])]).afterAll framingRun).header.claims := by
    decide +kernel
  have h := (Effect.claim "X-Frame-Options" hfree).perform
  obtain ⟨hsame, -⟩ := claim_erases_history _ _ _ _ h
  have hstart : [("x-frame-options", ["DENY"]), ("Vary", ["Accept"])].filter
      (fun e => decide (headerKey e.1 ≠ headerKey "X-Frame-Options")) = [("Vary", ["Accept"])] := by
    decide +kernel
  have hops : framingRun.filter (fun o => !o.writesTo (headerKey "X-Frame-Options"))
      = [.set "ETag" "1"] := by
    decide +kernel
  rw [hstart, hops] at hsame
  rw [hsame, h]

end Writer

end OpenerPolicy
