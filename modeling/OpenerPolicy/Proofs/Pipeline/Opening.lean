/-
  File:      OpenerPolicy/Proofs/Pipeline/Opening.lean
  Subject:   WHAT AN OPENER INTERCEPTOR DOES TO A RESPONSE, AND WHEN IT FAILS.

  Before the handler an opener interceptor claims its two headers and sets them, one after the other.
  The first claim that is refused ends it, and what was done until then stays. Nothing else about the
  response changes, whatever was done to it before.

  * `keysOf` -- the keys of headers; `Writer.ClaimedWith` -- **all that differs once headers are claimed
    and hold what is given**: the other headers are left as they were, these come last;
  * `entries_kept`, `Sound.items_kept` -- the entries and the emitted headers once one is kept;
  * `claimedWith_nil`, **`ClaimedWith.kept`** -- nothing differs at first, and a header that is kept is
    one more that is claimed;
  * `Directives.emit_of_first`, `emit_of_second`, `emit_of_neither` -- how the claims of an opener
    interceptor end, by what was claimed before;
  * **`opener_claims_both_or_fails`** -- the three ways in which an opener interceptor ends, after every
    run and with every config.
-/
import OpenerPolicy.Proofs.Pipeline.Deeds
import OpenerPolicy.Proofs.Response.Ordering

namespace OpenerPolicy

/-! ## 1. Headers that are claimed and given -/

/-- The keys of headers, in order. -/
def keysOf (given : List Entry) : List String := given.map (headerKey ·.name)

/-- **A response that differs in this alone**: headers were claimed that were not before, and hold the
    values given. Those with values are emitted last, in order; one without is left out. -/
structure Writer.ClaimedWith (w : Writer) (given : List Entry) (w' : Writer) : Prop where
  claimed : ∀ name, w'.header.isClaimed name = true ↔
    headerKey name ∈ keysOf given ∨ w.header.isClaimed name = true
  values : ∀ e ∈ given, ∀ name, headerKey name = headerKey e.name → w'.header.values name = e.values
  items : w'.header.items =
    w.header.items.filter (fun e => decide (headerKey e.name ∉ keysOf given))
      ++ given.filter (!·.values.isEmpty)
  /-- The entries of all other headers, those without values too. -/
  others : w'.header.entries.filter (fun e => decide (e.1 ∉ keysOf given))
    = w.header.entries.filter (fun e => decide (e.1 ∉ keysOf given))
  setters : w'.setters = w.setters
  status : w'.status = w.status
  body : w'.body = w.body

theorem mem_keysOf_append (given : List Entry) (e : Entry) (key : String) :
    key ∈ keysOf (given ++ [e]) ↔ key ∈ keysOf given ∨ key = headerKey e.name := by
  rw [keysOf, List.map_append, List.mem_append]
  exact or_congr_right List.mem_singleton

/-- A filter for one key more. -/
theorem filter_keysOf_append {α : Type} (key : α → String) (given : List Entry) (e : Entry)
    (l : List α) :
    l.filter (fun a => decide (key a ∉ keysOf (given ++ [e]))) =
      (l.filter (fun a => decide (key a ∉ keysOf given))).filter
        (fun a => decide (key a ≠ headerKey e.name)) := by
  rw [List.filter_filter]
  refine List.filter_congr fun a _ => ?_
  rw [← Bool.decide_and, decide_eq_decide, mem_keysOf_append, not_or, and_comm]

namespace Writer

/-! ## 2. One header more -/

/-- **The entries once a header is kept**: the others, and the header if it has values. -/
theorem entries_kept (w : Writer) (name : String) (values : List String) :
    (w.kept name values).header.entries = w.header.entries.remove (headerKey name)
      ++ if values.isEmpty then [] else [(headerKey name, ⟨name, values⟩)] := by
  have hnew : headerKey name ∉ (w.header.entries.remove (headerKey name)).keys := by
    rw [Keyed.keys_remove, List.mem_filter]
    exact fun h => of_decide_eq_true h.2 rfl
  rw [kept, Header.assign]
  split
  · rw [List.append_nil]
    exact Keyed.remove_remove_self _ _
  · exact Keyed.put_eq_append hnew _

/-- **What is emitted once a header is kept.** -/
theorem Sound.items_kept {w : Writer} (hw : w.Sound) (name : String) (values : List String) :
    (w.kept name values).header.items =
      w.header.items.filter (fun e => decide (headerKey e.name ≠ headerKey name))
        ++ [⟨name, values⟩].filter (fun e : Entry => !e.values.isEmpty) := by
  rw [Header.items, entries_kept, List.map_append, List.filter_append,
    ← hw.header.items_besides (headerKey name)]
  cases values <;> rfl

/-- The other entries are left alone. -/
theorem others_kept (w : Writer) (name : String) (values : List String) :
    (w.kept name values).header.entries.filter (fun e => decide (e.1 ≠ headerKey name))
      = w.header.entries.filter (fun e => decide (e.1 ≠ headerKey name)) := by
  have hset : (w.kept name values).header.entries.remove (headerKey name)
      = (w.header.entries.remove (headerKey name)).remove (headerKey name) :=
    (Header.changedAt_assign _ ⟨headerKey name, name⟩ values).others
  exact hset.trans (Keyed.remove_remove_self _ _)

theorem claimedWith_nil (w : Writer) : w.ClaimedWith [] w where
  claimed name := by simp [keysOf]
  values e he := absurd he List.not_mem_nil
  items := by simp [keysOf]
  others := rfl
  setters := rfl
  status := rfl
  body := rfl

/-- What was given has other names than a header that is not claimed yet. -/
theorem ClaimedWith.ne_of_mem {w w' : Writer} {given : List Entry} (h : w.ClaimedWith given w')
    {e : Entry} (he : e ∈ given) {name : String} (hc : headerKey name ∉ w'.header.claims) :
    headerKey e.name ≠ headerKey name := by
  intro heq
  have hkey : headerKey name ∈ keysOf given := heq ▸ List.mem_map_of_mem he
  have hclaimed : w'.header.isClaimed name = true := (h.claimed name).2 (Or.inl hkey)
  exact hc ((Header.isClaimed_eq_true_iff _ name).1 hclaimed)

/-- **A header that is kept is one more** that is claimed and holds what is given. -/
theorem ClaimedWith.kept {w w' : Writer} {given : List Entry} (h : w.ClaimedWith given w')
    (hw : w'.Sound) {name : String} (hc : headerKey name ∉ w'.header.claims) (values : List String) :
    w.ClaimedWith (given ++ [⟨name, values⟩]) (w'.kept name values) where
  claimed other := by
    rw [mem_keysOf_append, Header.isClaimed_eq_true_iff, claims_kept, List.mem_append,
      ← Header.isClaimed_eq_true_iff, h.claimed, List.mem_singleton, or_right_comm]
  values e he other ho := by
    rw [values_kept]
    rcases List.mem_append.1 he with he | he
    · have hne : headerKey name ≠ headerKey other := by
        rw [ho]
        exact (h.ne_of_mem he hc).symm
      rw [if_neg hne]
      exact h.values e he other ho
    · obtain rfl := List.mem_singleton.1 he
      exact if_pos ho.symm
  items := by
    have hgiven : (given.filter (!·.values.isEmpty)).filter
        (fun e => decide (headerKey e.name ≠ headerKey name)) = given.filter (!·.values.isEmpty) :=
      List.filter_eq_self.2 fun e he => decide_eq_true (h.ne_of_mem (List.mem_of_mem_filter he) hc)
    rw [hw.items_kept, h.items, List.filter_append, hgiven, filter_keysOf_append,
      List.filter_append, List.append_assoc]
  others := by
    have hcomm : ∀ l : Keyed String Entry,
        (l.filter (fun e => decide (e.1 ∉ keysOf given))).filter
            (fun e => decide (e.1 ≠ headerKey name))
          = (l.filter (fun e => decide (e.1 ≠ headerKey name))).filter
            (fun e => decide (e.1 ∉ keysOf given)) := by
      intro l
      rw [List.filter_filter, List.filter_filter]
      exact List.filter_congr fun _ _ => Bool.and_comm _ _
    rw [filter_keysOf_append Prod.fst, filter_keysOf_append Prod.fst, hcomm, others_kept, ← hcomm,
      h.others]
  setters := h.setters
  status := h.status
  body := h.body

end Writer

/-! ## 3. An opener interceptor -/

section Emit

variable (d : Directives) {w : Writer}

/-- Keeping the first header does not claim the second. -/
theorem mem_claims_kept_opener :
    headerKey reportOnlyHeader ∈ (w.kept openerHeader d.enforced).header.claims ↔
      w.header.isClaimed reportOnlyHeader = true := by
  have hne : headerKey reportOnlyHeader ≠ headerKey openerHeader := by
    rw [headerKey_opener.1, headerKey_opener.2]
    decide
  rw [Writer.claims_kept, List.mem_append, List.mem_singleton, Header.isClaimed_eq_true_iff]
  exact or_iff_left hne

/-- If the first header is claimed, nothing is done. -/
theorem Directives.emit_of_first (h : w.header.isClaimed openerHeader = true) :
    d.emit w = (.error (.header (.claimedTwice openerHeader)), w) := by
  rw [emit_eq, if_pos ((Header.isClaimed_eq_true_iff _ _).1 h)]

/-- If the second one alone is, the first one stays claimed and holds what is enforced. -/
theorem Directives.emit_of_second (hw : w.Sound) (h₁ : w.header.isClaimed openerHeader = false)
    (h₂ : w.header.isClaimed reportOnlyHeader = true) :
    (d.emit w).1 = .error (.header (.claimedTwice reportOnlyHeader)) ∧
      w.ClaimedWith [⟨openerHeader, d.enforced⟩] (d.emit w).2 := by
  have hfirst := (Header.isClaimed_eq_false_iff _ _).1 h₁
  rw [emit_eq, if_neg hfirst, if_pos ((mem_claims_kept_opener d).2 h₂)]
  exact ⟨rfl, w.claimedWith_nil.kept hw hfirst d.enforced⟩

/-- If neither is, both are claimed and hold the directives. -/
theorem Directives.emit_of_neither (hw : w.Sound) (h₁ : w.header.isClaimed openerHeader = false)
    (h₂ : w.header.isClaimed reportOnlyHeader = false) :
    (d.emit w).1 = .ok false ∧
      w.ClaimedWith [⟨openerHeader, d.enforced⟩, ⟨reportOnlyHeader, d.reportOnly⟩] (d.emit w).2 := by
  have hfirst := (Header.isClaimed_eq_false_iff _ _).1 h₁
  have hsecond : headerKey reportOnlyHeader ∉ (w.kept openerHeader d.enforced).header.claims := by
    rw [mem_claims_kept_opener, h₂]
    exact Bool.false_ne_true
  rw [emit_eq, if_neg hfirst, if_neg hsecond]
  have hkept := w.claimedWith_nil.kept hw hfirst d.enforced
  exact ⟨rfl, hkept.kept (hw.kept hfirst d.enforced) hsecond d.reportOnly⟩

end Emit

/-- **An opener interceptor claims both headers, or fails and names the one that is claimed.** Whatever
    was done to the response before, in operations, callbacks and phases, and whatever config the
    interceptor is given; the directives are those of the config if it is an override, its own
    otherwise.

    * It fails exactly if one of its headers is claimed already.
    * If the first one is, it fails with that name and nothing has changed.
    * If the second one alone is, it fails with that name, and all that has changed is that the first
      one is claimed and holds what is enforced.
    * If neither is, it has not written the response, and all that has changed is that both are claimed
      and hold what is enforced and what is reported only; one without directives is left out. -/
theorem opener_claims_both_or_fails {ρ : Type} (initial : List (String × List String))
    (deeds : List (Deed ρ)) (d : Directives) (config : Option Config) (request : Request)
    (reply : Option ρ) :
    let w := (Writer.start initial).afterDeeds deeds
    let own := Interceptor.effective d config
    let result := (Interceptor.opener (ρ := ρ) d).act .before request reply config w
    ((∃ f, result.1 = .error f) ↔
      w.header.isClaimed openerHeader = true ∨ w.header.isClaimed reportOnlyHeader = true) ∧
    (w.header.isClaimed openerHeader = true →
      result = (.error (.header (.claimedTwice openerHeader)), w)) ∧
    (w.header.isClaimed openerHeader = false → w.header.isClaimed reportOnlyHeader = true →
      result.1 = .error (.header (.claimedTwice reportOnlyHeader)) ∧
      w.ClaimedWith [⟨openerHeader, own.enforced⟩] result.2) ∧
    (w.header.isClaimed openerHeader = false → w.header.isClaimed reportOnlyHeader = false →
      result.1 = .ok false ∧
      w.ClaimedWith [⟨openerHeader, own.enforced⟩, ⟨reportOnlyHeader, own.reportOnly⟩] result.2) := by
  intro w own result
  have hw : w.Sound := Writer.sound_afterDeeds (Writer.sound_start initial) deeds
  have hfirst := own.emit_of_first (w := w)
  have hsecond := own.emit_of_second hw
  have hneither := own.emit_of_neither hw
  have hresult : result = own.emit w := rfl
  rw [hresult]
  refine ⟨⟨?_, ?_⟩, hfirst, hsecond, hneither⟩
  · rintro ⟨f, hf⟩
    refine Classical.byContradiction fun hopen => ?_
    rw [not_or, Bool.not_eq_true, Bool.not_eq_true] at hopen
    rw [(hneither hopen.1 hopen.2).1] at hf
    cases hf
  · intro hclaimed
    cases h₁ : w.header.isClaimed openerHeader with
    | true => exact ⟨_, congrArg Prod.fst (hfirst h₁)⟩
    | false => exact ⟨_, (hsecond h₁ (hclaimed.resolve_left (by rw [h₁]; exact Bool.false_ne_true))).1⟩

/-- A guest has claimed the second header under another spelling, and the first one has a value: it is
    replaced all the same. -/
theorem opener_replaced_before_failing :
    let deeds : List (Deed Unit) := [.operation (.set "cross-origin-opener-policy" "unsafe-none"),
      .operation (.claim "CROSS-ORIGIN-OPENER-POLICY-REPORT-ONLY")]
    let w := (Writer.start []).afterDeeds deeds
    let result := (Interceptor.opener (ρ := Unit) ⟨["same-origin"], []⟩).act .before {} none none w
    (w.header.isClaimed openerHeader = false ∧ w.header.isClaimed reportOnlyHeader = true) ∧
      result.1 = .error (.header (.claimedTwice reportOnlyHeader)) ∧
      w.ClaimedWith [⟨openerHeader, ["same-origin"]⟩] result.2 := by
  intro deeds w result
  have hclaimed : w.header.isClaimed openerHeader = false ∧
      w.header.isClaimed reportOnlyHeader = true := by decide +kernel
  obtain ⟨-, -, hsecond, -⟩ := opener_claims_both_or_fails [] deeds ⟨["same-origin"], []⟩ none {} none
  exact ⟨hclaimed, hsecond hclaimed.1 hclaimed.2⟩

end OpenerPolicy
