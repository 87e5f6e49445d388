/-
  File:      OpenerPolicy/Proofs/Http/Lines.lean
  Subject:   WHAT THE HEADERS OF A WRITER DO TO THE LINES OF A RESPONSE.

  The headers of a writer are put onto a response line by line, and a line that cannot be sent is a
  fault. Here it is said in one step when that succeeds and which lines the response has then.

  * `Header.Sendable` -- whether all that is emitted can be sent; `Header.onto` -- the lines then;
    **`apply_eq_ok_iff`** -- putting headers onto a response succeeds exactly with these;
  * `Header.Latin1`, `sendable_of_latin1` -- headers in Latin-1 can be sent;
  * `Header.onto_eq` -- sound headers: the other lines stay in order, and the headers follow them;
  * `valuesOf`, `Response.values` -- the values of all lines of a name, however it is spelled;
    **`values_apply`** -- a header that is claimed or emitted has its own lines and no others;
  * `Sound.onto_onto` -- putting sound headers on again changes nothing;
    **`apply_after_run`** -- the lines of a response once headers are put onto it, after every run.
-/
import OpenerPolicy.Http.Response
import OpenerPolicy.Proofs.Response.Reading
import OpenerPolicy.Proofs.Steps

namespace OpenerPolicy

open Http Text

/-! ## 1. Headers that can be sent -/

/-- Text of Latin-1. -/
def IsLatin1 (s : String) : Prop := ∀ c ∈ s.toList, Latin1.holds c = true

instance (s : String) : Decidable (IsLatin1 s) :=
  List.decidableBAll (fun c => Latin1.holds c = true) s.toList

theorem isLatin1_headerKey {name : String} (h : IsLatin1 name) : IsLatin1 (headerKey name) :=
  lowercase_latin1 h

namespace Header

/-- **Headers that can be sent**: the claimed names, and the names and values that are emitted. -/
structure Sendable (h : Header) : Prop where
  claims : ∀ name ∈ h.claims, IsLatin1 (headerKey name)
  names : ∀ e ∈ h.items, IsLatin1 (headerKey e.name)
  values : ∀ e ∈ h.items, ∀ value ∈ e.values, IsLatin1 value

/-- Headers in Latin-1. -/
structure Latin1 (h : Header) : Prop where
  claims : ∀ name ∈ h.claims, IsLatin1 name
  names : ∀ e ∈ h.items, IsLatin1 e.name
  values : ∀ e ∈ h.items, ∀ value ∈ e.values, IsLatin1 value

theorem sendable_of_latin1 {h : Header} (hl : h.Latin1) : h.Sendable where
  claims name hn := isLatin1_headerKey (hl.claims name hn)
  names e he := isLatin1_headerKey (hl.names e he)
  values := hl.values

/-- The lines without those of a name. -/
def without (lines : List (String × String)) (name : String) : List (String × String) :=
  lines.filter (·.1 ≠ headerKey name)

end Header

/-- The lines of a header, one for each value. -/
def Entry.lines (e : Entry) : List (String × String) :=
  e.values.map fun value => (headerKey e.name, value)

/-- The lines where a header takes the place of those with its name. -/
def Header.replace (lines : List (String × String)) (e : Entry) : List (String × String) :=
  without lines e.name ++ e.lines

/-- **The lines once headers are put onto them.** Those of claimed headers go first; then each header
    that is emitted takes the place of the lines with its name. -/
def Header.onto (h : Header) (lines : List (String × String)) : List (String × String) :=
  h.items.foldl replace (h.claimed.foldl without lines)

/-! ## 2. Putting headers onto a response -/

theorem sendable_eq_ok_iff (s t : String) : sendable s = .ok t ↔ IsLatin1 s ∧ t = s := by
  have henc := Latin1.encodable_eq_ok_iff s t
  unfold sendable
  constructor
  · intro h
    cases he : Latin1.encodable s with
    | error f =>
      rw [he] at h
      cases h
    | ok u =>
      rw [he] at h henc
      obtain rfl := Except.ok.inj h
      obtain ⟨heq, hs⟩ := henc.1 rfl
      exact ⟨hs, heq.symm⟩
  · rintro ⟨hs, rfl⟩
    rw [henc.2 ⟨rfl, hs⟩]
    rfl

namespace Http.Response

theorem append_eq_ok_iff (r r' : Response) (name value : String) :
    r.append name value = .ok r' ↔ (IsLatin1 (headerKey name) ∧ IsLatin1 value) ∧
      r' = { r with lines := r.lines ++ [(headerKey name, value)] } := by
  rw [append, bind_eq_ok_iff]
  constructor
  · rintro ⟨n, hn, h⟩
    obtain ⟨v, hv, hr⟩ := bind_eq_ok_iff.1 h
    obtain ⟨hln, rfl⟩ := (sendable_eq_ok_iff _ _).1 hn
    obtain ⟨hlv, rfl⟩ := (sendable_eq_ok_iff _ _).1 hv
    exact ⟨⟨hln, hlv⟩, (Except.ok.inj hr).symm⟩
  · rintro ⟨⟨hn, hv⟩, rfl⟩
    refine ⟨headerKey name, (sendable_eq_ok_iff _ _).2 ⟨hn, rfl⟩, ?_⟩
    exact bind_eq_ok_iff.2 ⟨value, (sendable_eq_ok_iff _ _).2 ⟨hv, rfl⟩, rfl⟩

theorem remove_eq_ok_iff (r r' : Response) (name : String) :
    r.remove name = .ok r' ↔
      IsLatin1 (headerKey name) ∧ r' = { r with lines := Header.without r.lines name } := by
  rw [remove, bind_eq_ok_iff]
  constructor
  · rintro ⟨n, hn, h⟩
    obtain ⟨hl, rfl⟩ := (sendable_eq_ok_iff _ _).1 hn
    exact ⟨hl, (Except.ok.inj h).symm⟩
  · rintro ⟨hl, rfl⟩
    exact ⟨headerKey name, (sendable_eq_ok_iff _ _).2 ⟨hl, rfl⟩, rfl⟩

/-- Lines added one after the other, where none of them fails. -/
theorem foldl_append_line (r : Response) (name : String) (values : List String) :
    values.foldl (fun r value => { r with lines := r.lines ++ [(name, value)] }) r
      = { r with lines := r.lines ++ values.map fun value => (name, value) } := by
  induction values generalizing r with
  | nil =>
    rw [List.map_nil, List.append_nil]
    rfl
  | cons value rest ih =>
    rw [List.foldl_cons, ih, List.append_assoc]
    rfl

/-- All values of an entry whose name can be sent. -/
theorem appendAll_eq_ok_iff (r r' : Response) {e : Entry} (hn : IsLatin1 (headerKey e.name)) :
    r.appendAll e.name e.values = .ok r' ↔ (∀ value ∈ e.values, IsLatin1 value) ∧
      r' = { r with lines := r.lines ++ e.lines } := by
  have hstep : ∀ value ∈ e.values, ∀ s s' : Response, s.append e.name value = .ok s' ↔
      IsLatin1 value ∧ s' = { s with lines := s.lines ++ [(headerKey e.name, value)] } := by
    intro value _ s s'
    rw [append_eq_ok_iff]
    exact ⟨fun h => ⟨h.1.2, h.2⟩, fun h => ⟨⟨hn, h.1⟩, h.2⟩⟩
  rw [appendAll, foldlM_eq_ok_iff hstep, foldl_append_line]
  rfl

/-- The step of one header that is emitted. -/
theorem replace_eq_ok_iff (r r' : Response) (e : Entry) :
    (do appendAll (← r.remove e.name) e.name e.values) = .ok r' ↔
      (IsLatin1 (headerKey e.name) ∧ ∀ value ∈ e.values, IsLatin1 value) ∧
        r' = { r with lines := Header.replace r.lines e } := by
  rw [bind_eq_ok_iff]
  constructor
  · rintro ⟨s, hs, h⟩
    obtain ⟨hn, rfl⟩ := (remove_eq_ok_iff _ _ _).1 hs
    obtain ⟨hv, rfl⟩ := (appendAll_eq_ok_iff _ _ hn).1 h
    exact ⟨⟨hn, hv⟩, rfl⟩
  · rintro ⟨⟨hn, hv⟩, rfl⟩
    exact ⟨_, (remove_eq_ok_iff _ _ _).2 ⟨hn, rfl⟩, (appendAll_eq_ok_iff _ _ hn).2 ⟨hv, rfl⟩⟩

/-- Steps that change the lines alone. -/
theorem foldl_lines {α : Type} (next : List (String × String) → α → List (String × String))
    (l : List α) (r : Response) :
    l.foldl (fun r a => { r with lines := next r.lines a }) r
      = { r with lines := l.foldl next r.lines } := by
  induction l generalizing r with
  | nil => rfl
  | cons a rest ih => rw [List.foldl_cons, ih, List.foldl_cons]

/-- **Headers are put onto a response exactly if they can be sent**, and change its lines alone. -/
theorem apply_eq_ok_iff (r r' : Response) (h : Header) :
    r.apply h = .ok r' ↔ h.Sendable ∧ r' = { r with lines := h.onto r.lines } := by
  have hremove : ∀ name ∈ h.claimed, ∀ s s' : Response, s.remove name = .ok s' ↔
      IsLatin1 (headerKey name) ∧ s' = { s with lines := Header.without s.lines name } :=
    fun name _ s s' => remove_eq_ok_iff s s' name
  have hreplace : ∀ e ∈ h.items, ∀ s s' : Response, _ := fun e _ s s' => replace_eq_ok_iff s s' e
  rw [apply, bind_eq_ok_iff]
  constructor
  · rintro ⟨s, hs, hr⟩
    obtain ⟨hc, rfl⟩ := (foldlM_eq_ok_iff hremove _ _).1 hs
    obtain ⟨hi, rfl⟩ := (foldlM_eq_ok_iff hreplace _ _).1 hr
    refine ⟨⟨fun name hn => hc name (by simpa [Header.claimed] using hn), fun e he => (hi e he).1,
      fun e he => (hi e he).2⟩, ?_⟩
    rw [foldl_lines Header.without, foldl_lines Header.replace]
    rfl
  · rintro ⟨hs, rfl⟩
    refine ⟨_, (foldlM_eq_ok_iff hremove _ _).2 ⟨fun name hn => ?_, rfl⟩,
      (foldlM_eq_ok_iff hreplace _ _).2 ⟨fun e he => ⟨hs.names e he, hs.values e he⟩, ?_⟩⟩
    · exact hs.claims name (by simpa [Header.claimed] using hn)
    · rw [foldl_lines Header.without, foldl_lines Header.replace]
      rfl

end Http.Response

/-! ## 3. The lines of sound headers -/

namespace Header

/-- Taking out the lines of several names. -/
theorem foldl_without (names : List String) (lines : List (String × String)) :
    names.foldl without lines
      = lines.filter fun line => decide (∀ name ∈ names, line.1 ≠ headerKey name) := by
  induction names generalizing lines with
  | nil =>
    rw [List.foldl_nil, List.filter_eq_self.2]
    intro line _
    exact decide_eq_true fun name hn => absurd hn List.not_mem_nil
  | cons name rest ih =>
    rw [List.foldl_cons, ih, without, List.filter_filter]
    refine List.filter_congr fun line _ => ?_
    rw [← Bool.decide_and]
    refine decide_eq_decide.2 ?_
    rw [List.forall_mem_cons, and_comm]

/-- Where no two headers have one key, each keeps the lines that the others have put. -/
theorem foldl_replace {items : List Entry}
    (h : items.Pairwise fun e e' => headerKey e.name ≠ headerKey e'.name)
    (lines : List (String × String)) :
    items.foldl replace lines
      = (lines.filter fun line => decide (∀ e ∈ items, line.1 ≠ headerKey e.name))
        ++ items.flatMap Entry.lines := by
  induction items generalizing lines with
  | nil =>
    rw [List.foldl_nil, List.flatMap_nil, List.append_nil, List.filter_eq_self.2]
    intro line _
    exact decide_eq_true fun e he => absurd he List.not_mem_nil
  | cons e rest ih =>
    obtain ⟨hfirst, hrest⟩ := List.pairwise_cons.1 h
    have hkeep : e.lines.filter (fun line => decide (∀ e' ∈ rest, line.1 ≠ headerKey e'.name))
        = e.lines := by
      rw [List.filter_eq_self]
      intro line hline
      obtain ⟨value, -, rfl⟩ := List.mem_map.1 hline
      exact decide_eq_true hfirst
    rw [List.foldl_cons, ih hrest, replace, List.filter_append, hkeep, List.append_assoc,
      List.flatMap_cons, without, List.filter_filter]
    refine congrArg (· ++ _) (List.filter_congr fun line _ => ?_)
    rw [← Bool.decide_and]
    refine decide_eq_decide.2 ?_
    rw [List.forall_mem_cons, and_comm]

/-- **The lines once sound headers are put onto them**: the lines whose names are neither claimed nor
    emitted stay in order, and the headers follow them. -/
theorem Sound.onto_eq {h : Header} (hs : h.Sound) (lines : List (String × String)) :
    h.onto lines
      = (lines.filter fun line =>
          decide (line.1 ∉ h.claims ∧ ∀ e ∈ h.items, line.1 ≠ headerKey e.name))
        ++ h.items.flatMap Entry.lines := by
  rw [onto, foldl_replace hs.pairwise_items, foldl_without, List.filter_filter]
  refine congrArg (· ++ _) (List.filter_congr fun line _ => ?_)
  rw [← Bool.decide_and]
  refine decide_eq_decide.2 ?_
  rw [and_comm]
  refine and_congr_left fun _ => ?_
  constructor
  · intro hn hc
    exact hn line.1 (by simpa [claimed] using hc) (hs.claimsKeys line.1 hc).symm
  · intro hn name hname heq
    have hc : name ∈ h.claims := by simpa [claimed] using hname
    rw [hs.claimsKeys name hc] at heq
    exact hn (heq ▸ hc)

end Header

/-! ## 4. The lines of one name -/

/-- The values of the lines of a name, in order. Names are compared without their case. -/
def valuesOf (lines : List (String × String)) (name : String) : List String :=
  (lines.filter fun line => headerKey line.1 = headerKey name).map Prod.snd

/-- **The values of all lines of a name**, however it is spelled. -/
def Http.Response.values (r : Http.Response) (name : String) : List String := valuesOf r.lines name

theorem valuesOf_append (first second : List (String × String)) (name : String) :
    valuesOf (first ++ second) name = valuesOf first name ++ valuesOf second name := by
  rw [valuesOf, List.filter_append, List.map_append]
  rfl

/-- The lines of a header are all under its name. -/
theorem valuesOf_lines (e : Entry) (name : String) :
    valuesOf e.lines name = if headerKey e.name = headerKey name then e.values else [] := by
  have hkey : ∀ line ∈ e.lines, headerKey line.1 = headerKey e.name := by
    intro line hline
    obtain ⟨value, -, rfl⟩ := List.mem_map.1 hline
    exact headerKey_headerKey e.name
  by_cases hn : headerKey e.name = headerKey name
  · rw [if_pos hn, valuesOf, List.filter_eq_self.2, Entry.lines, List.map_map]
    · exact List.map_id e.values
    · intro line hline
      exact decide_eq_true ((hkey line hline).trans hn)
  · rw [if_neg hn, valuesOf, List.filter_eq_nil_iff.2]
    · rfl
    · intro line hline
      simpa [hkey line hline] using hn

namespace Header

/-- A header without values has no lines, so it makes no difference whether it is emitted. -/
theorem flatMap_items (h : Header) :
    h.items.flatMap Entry.lines = h.entries.flatMap fun e => e.2.lines := by
  unfold items
  induction h.entries with
  | nil => rfl
  | cons e rest ih =>
    rw [List.map_cons, List.flatMap_cons, List.filter_cons]
    split
    · rw [List.flatMap_cons, ih]
    · next hempty =>
      have hnil : e.2.values = [] := by simpa using hempty
      rw [ih, Entry.lines, hnil, List.map_nil, List.nil_append]

/-- **The lines that headers emit hold what the headers hold.** -/
theorem Sound.valuesOf_items {h : Header} (hs : h.Sound) (name : String) :
    valuesOf (h.items.flatMap Entry.lines) name = h.values name := by
  have go : ∀ entries : Keyed String Entry, (∀ e ∈ entries, headerKey e.2.name = e.1) →
      entries.keys.Nodup → valuesOf (entries.flatMap fun e => e.2.lines) name
        = ((entries.find? (headerKey name)).map Entry.values).getD [] := by
    intro entries hnamed hnodup
    induction entries with
    | nil => rfl
    | cons e rest ih =>
      obtain ⟨key, e⟩ := e
      have hkey : headerKey e.name = key := hnamed (key, e) List.mem_cons_self
      obtain ⟨hfirst, hrest⟩ := List.nodup_cons.1 hnodup
      have ih := ih (fun e' he' => hnamed e' (List.mem_cons_of_mem _ he')) hrest
      rw [List.flatMap_cons, valuesOf_append, valuesOf_lines, ih, hkey, Keyed.find?]
      by_cases hn : key = headerKey name
      · -- no later entry is under the same key
        have hnone : Keyed.find? rest (headerKey name) = none :=
          (Keyed.find?_eq_none_iff rest _).2 (hn ▸ hfirst)
        rw [if_pos hn, if_pos hn, hnone]
        exact List.append_nil e.values
      · rw [if_neg hn, if_neg hn]
        rfl
  rw [flatMap_items]
  exact go h.entries hs.named hs.nodup

end Header

/-- **What the lines of a name hold once sound headers are put onto a response.** A header that is
    claimed or has values has its own lines and no others; every other name keeps those it had. -/
theorem Http.Response.values_apply {r r' : Http.Response} {h : Header} (ha : r.apply h = .ok r')
    (hs : h.Sound) (hlines : ∀ line ∈ r.lines, headerKey line.1 = line.1) (name : String) :
    r'.values name
      = if headerKey name ∈ h.claims ∨ h.values name ≠ [] then h.values name else r.values name := by
  obtain ⟨-, rfl⟩ := (apply_eq_ok_iff r r' h).1 ha
  show valuesOf (h.onto r.lines) name = _
  rw [hs.onto_eq, valuesOf_append, hs.valuesOf_items, valuesOf, List.filter_filter]
  by_cases hown : headerKey name ∈ h.claims ∨ h.values name ≠ []
  · rw [if_pos hown, List.filter_eq_nil_iff.2]
    · exact List.nil_append _
    · intro line hline hboth
      obtain ⟨hkey, hfree⟩ := Bool.and_eq_true_iff.1 hboth
      obtain ⟨hc, hi⟩ := of_decide_eq_true hfree
      have hkey := of_decide_eq_true hkey
      rw [hlines line hline] at hkey
      rcases hown with hclaimed | hvalues
      · exact hc (hkey ▸ hclaimed)
      · obtain ⟨e, he, hname⟩ := (hs.mem_items_iff name).2 hvalues
        exact hi e he (hkey.trans hname.symm)
  · rw [if_neg hown]
    have hnil : h.values name = [] :=
      Classical.byContradiction fun hne => hown (Or.inr hne)
    rw [hnil, List.append_nil, Response.values, valuesOf]
    refine congrArg (List.map Prod.snd) (List.filter_congr fun line hline => ?_)
    -- a line with this name is neither of a claimed header nor of one that is emitted
    have hfree : headerKey line.1 = headerKey name →
        line.1 ∉ h.claims ∧ ∀ e ∈ h.items, line.1 ≠ headerKey e.name := by
      intro hkey
      rw [hlines line hline] at hkey
      rw [hkey]
      refine ⟨fun hc => hown (Or.inl hc), fun e he heq => ?_⟩
      exact (hs.mem_items_iff name).1 ⟨e, he, heq.symm⟩ hnil
    rw [← Bool.decide_and]
    exact decide_eq_decide.2 (and_iff_left_of_imp hfree)

/-! ## 5. After every run -/

/-- The lines of a header stay when those of a header with another key are taken out. -/
theorem Entry.without_lines {e : Entry} {name : String} (h : headerKey e.name ≠ headerKey name) :
    Header.without e.lines name = e.lines := by
  rw [Header.without, List.filter_eq_self]
  intro line hline
  obtain ⟨value, -, rfl⟩ := List.mem_map.1 hline
  exact decide_eq_true h

namespace Header

/-- The lines that headers leave alone: their names are neither claimed nor emitted. -/
def others (h : Header) (lines : List (String × String)) : List (String × String) :=
  lines.filter fun line => decide (line.1 ∉ h.claimed ∧ ∀ e ∈ h.items, line.1 ≠ headerKey e.name)

theorem Sound.onto_eq_others {h : Header} (hs : h.Sound) (lines : List (String × String)) :
    h.onto lines = h.others lines ++ h.items.flatMap Entry.lines := by
  simp only [hs.onto_eq, others, claimed, Text.mem_ordered]

/-- What headers emit, they do not leave alone. -/
theorem others_lines_items (h : Header) : h.others (h.items.flatMap Entry.lines) = [] := by
  rw [others, List.filter_eq_nil_iff]
  intro line hline hfree
  obtain ⟨e, he, hl⟩ := List.mem_flatMap.1 hline
  obtain ⟨value, -, rfl⟩ := List.mem_map.1 hl
  exact (of_decide_eq_true hfree).2 e he rfl

theorem others_others (h : Header) (lines : List (String × String)) :
    h.others (h.others lines) = h.others lines := by
  rw [others, others, List.filter_filter]
  simp only [Bool.and_self]

/-- **Headers that are put on a second time change nothing.** -/
theorem Sound.onto_onto {h : Header} (hs : h.Sound) (lines : List (String × String)) :
    h.onto (h.onto lines) = h.onto lines := by
  rw [hs.onto_eq_others, hs.onto_eq_others, others, List.filter_append]
  show h.others (h.others lines) ++ h.others (h.items.flatMap Entry.lines) ++ _ = _
  rw [others_others, others_lines_items, List.append_nil]

end Header

namespace Http.Response

/-- **The lines of a response once headers in Latin-1 are put onto it**, whatever was there at the start
    and in whatever order headers were claimed, set, added to, deleted and written by setters:

    * its lines whose names are neither claimed nor emitted, in their order, and after them a line for
      each value of each header that is emitted, in order;
    * so a claimed header without values has no line left, however it is spelled; taking out the lines
      of a later header touches none of those just added for an earlier one; and putting the same
      headers on again changes nothing. -/
theorem apply_after_run (initial : List (String × List String)) (ops : List Operation) (r : Response)
    (hlatin1 : ((Writer.start initial).afterAll ops).header.Latin1)
    (hlines : ∀ line ∈ r.lines, headerKey line.1 = line.1) :
    let h := ((Writer.start initial).afterAll ops).header
    ∃ r', r.apply h = .ok r' ∧ r'.status = r.status ∧ r'.body = r.body ∧
      r'.lines = (r.lines.filter fun line =>
          decide (line.1 ∉ h.claimed ∧ ∀ e ∈ h.items, line.1 ≠ headerKey e.name))
        ++ h.items.flatMap (fun e => e.values.map fun value => (headerKey e.name, value)) ∧
      (∀ name, h.isClaimed name = true → h.values name = [] →
        ∀ line ∈ r'.lines, headerKey line.1 ≠ headerKey name) ∧
      (h.items.Pairwise fun e e' =>
        ({ r with lines := e.lines } : Response).remove e'.name = .ok { r with lines := e.lines }) ∧
      r'.apply h = .ok r' := by
  intro h
  have hs : h.Sound := (Writer.sound_afterAll (Writer.sound_start initial) ops).header
  have hsend : h.Sendable := Header.sendable_of_latin1 hlatin1
  have happly := (apply_eq_ok_iff r _ h).2 ⟨hsend, rfl⟩
  refine ⟨_, happly, rfl, rfl, hs.onto_eq_others r.lines, fun name hc hempty line hline => ?_, ?_, ?_⟩
  · -- a line of this name would be one of the values of the name
    intro hname
    have hvalues := values_apply happly hs hlines name
    rw [if_pos (Or.inl ((h.isClaimed_eq_true_iff name).1 hc)), hempty, values, valuesOf,
      List.map_eq_nil_iff, List.filter_eq_nil_iff] at hvalues
    exact hvalues line hline (decide_eq_true hname)
  · refine hs.pairwise_items.imp_of_mem fun {e e'} _ he' hne => ?_
    rw [remove_eq_ok_iff, Entry.without_lines hne]
    exact ⟨hsend.names e' he', rfl⟩
  · rw [apply_eq_ok_iff]
    exact ⟨hsend, by rw [hs.onto_onto]⟩

/-- What is done to the headers of a page: framing is claimed and left without values. -/
def pageRun : List Operation :=
  [.claim "X-Frame-Options", .add "Set-Cookie" "a=1", .set "Vary" "Cookie", .add "set-cookie" "b=2"]

/-- The page's own lines for the claimed header and for the cookies go, the others stay. -/
theorem page_lines :
    ∃ r', (⟨200, [("content-length", "2"), ("x-frame-options", "DENY"), ("set-cookie", "c=3"),
          ("etag", "1")], Text.utf8Bytes "ok"⟩ : Response).apply
            ((Writer.start []).afterAll pageRun).header = .ok r' ∧
      r'.lines = [("content-length", "2"), ("etag", "1"), ("set-cookie", "a=1"),
        ("set-cookie", "b=2"), ("vary", "Cookie")] := by
  obtain ⟨r', happly, -, -, hlines, -⟩ := apply_after_run [] pageRun
    ⟨200, [("content-length", "2"), ("x-frame-options", "DENY"), ("set-cookie", "c=3"), ("etag", "1")],
      Text.utf8Bytes "ok"⟩
    ⟨by decide +kernel, by decide +kernel, by decide +kernel⟩ (by decide +kernel)
  exact ⟨r', happly, hlines.trans (by decide +kernel)⟩

end Http.Response

end OpenerPolicy
