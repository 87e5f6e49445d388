/-
  File:      OpenerPolicy/Proofs/Response/Ordering.lean
  Subject:   WHAT AN OPERATION LEAVES ALONE, AND IN WHICH ORDER HEADERS ARE EMITTED.

  An operation is on one header, and every other header stays what it was and where it was. The header
  itself keeps its place as long as it is there; once it was taken out, it comes back as the last one.

  * `Operation.subject?` -- the header that an operation is on;
  * `Header.ChangedAt` -- headers that differ in one of them alone, and how the order of the entries
    changes then; **`changedAt_after`** -- so does every operation change them;
  * `ChangedAt.values`, `ChangedAt.isClaimed`, `ChangedAt.items` -- what can be seen of the others;
  * `Writer.insertions`, `insertionsOf` -- a log of the headers that come to be there, in a run and
    from the start on;
  * `Arranged` -- the INVARIANT of the order: that of the last occurrences in the log;
    `arranged_afterAll`;
  * **`headers_keep_their_places`** -- both for every reachable state: what an operation leaves alone,
    and that headers are emitted in the order of their last insertion.
-/
import Mathlib.Data.List.Dedup
import Mathlib.Data.List.Induction
import OpenerPolicy.Proofs.Response.Reading

namespace OpenerPolicy

/-! ## 1. Lists of keys -/

/-- A new last element is the last occurrence of its own. -/
theorem dedup_concat (l : List String) (key : String) :
    (l ++ [key]).dedup = l.dedup.filter (fun k => decide (k ≠ key)) ++ [key] := by
  induction l with
  | nil => rfl
  | cons k rest ih =>
    rw [List.cons_append]
    by_cases hk : k ∈ rest
    · rw [List.dedup_cons_of_mem hk, List.dedup_cons_of_mem (List.mem_append_left _ hk), ih]
    · rw [List.dedup_cons_of_notMem hk, List.filter_cons]
      by_cases heq : k = key
      · have hmem : k ∈ rest ++ [key] := List.mem_append_right _ (List.mem_singleton.2 heq)
        rw [List.dedup_cons_of_mem hmem, ih, if_neg (by simpa using heq)]
      · have hnew : k ∉ rest ++ [key] := by
          rw [List.mem_append, List.mem_singleton]
          rintro (h | h)
          · exact hk h
          · exact heq h
        rw [List.dedup_cons_of_notMem hnew, ih, if_pos (decide_eq_true heq)]
        rfl

/-- The keys of entries that are put one after the other: each where it occurs first. -/
theorem Keyed.keys_ofList {α : Type} (entries : List (String × α)) :
    (Keyed.ofList entries).keys = (entries.map Prod.fst).eraseDups := by
  induction entries using List.reverseRecOn with
  | nil => rfl
  | append_singleton rest e ih =>
    have hput : Keyed.ofList (rest ++ [e]) = (Keyed.ofList rest).put e.1 e.2 := by
      rw [Keyed.ofList, List.foldl_append]
      rfl
    rw [hput, Keyed.keys_put, ih, List.map_append, List.eraseDups_append]
    by_cases he : e.1 ∈ rest.map Prod.fst
    · have hnone : ([e].map Prod.fst).removeAll (rest.map Prod.fst) = [] := by
        simp [List.removeAll, he]
      rw [if_pos (List.mem_eraseDups.2 he), hnone]
      exact (List.append_nil _).symm
    · have hone : ([e].map Prod.fst).removeAll (rest.map Prod.fst) = [e.1] := by
        simp [List.removeAll, he]
      rw [if_neg fun hmem => he (List.mem_eraseDups.1 hmem), hone]
      rfl

/-! ## 2. Headers that differ in one of them -/

/-- **The header that an operation is on**, by its key: the one it names, or that of the setter. -/
def Operation.subject? (setters : List Setter) : Operation → Option String
  | .claim name => some (headerKey name)
  | .assign index _ => setters[index]?.map Setter.key
  | .set name _ => some (headerKey name)
  | .add name _ => some (headerKey name)
  | .delete name => some (headerKey name)
  | .write _ _ => none

/-- **Headers that differ from others in the one under a key alone.** Its entry has kept its place, is
    the last one and was not there before, or is gone. -/
structure Header.ChangedAt (h : Header) (key : String) (h' : Header) : Prop where
  others : h'.entries.remove key = h.entries.remove key
  claims : ∀ k, k ≠ key → (k ∈ h'.claims ↔ k ∈ h.claims)
  order : h'.entries.keys = h.entries.keys ∨
    (key ∉ h.entries.keys ∧ h'.entries.keys = h.entries.keys ++ [key]) ∨
    h'.entries.keys = h.entries.keys.filter (fun k => decide (k ≠ key))

namespace Header

theorem changedAt_self (h : Header) (key : String) : h.ChangedAt key h where
  others := rfl
  claims _ _ := Iff.rfl
  order := Or.inl rfl

theorem changedAt_put (h : Header) (key : String) (e : Entry) :
    h.ChangedAt key ⟨h.entries.put key e, h.claims⟩ where
  others := Keyed.remove_put_self h.entries key e
  claims _ _ := Iff.rfl
  order := by
    rw [Keyed.keys_put]
    split
    · exact Or.inl rfl
    · next hk => exact Or.inr (Or.inl ⟨hk, rfl⟩)

theorem changedAt_remove (h : Header) (key : String) {claims : List String}
    (hc : ∀ k, k ≠ key → (k ∈ claims ↔ k ∈ h.claims)) :
    h.ChangedAt key ⟨h.entries.remove key, claims⟩ where
  others := Keyed.remove_remove_self h.entries key
  claims := hc
  order := Or.inr (Or.inr (Keyed.keys_remove h.entries key))

theorem changedAt_assign (h : Header) (s : Setter) (values : List String) :
    h.ChangedAt s.key (h.assign s values) := by
  unfold assign
  split
  · exact h.changedAt_remove s.key fun _ _ => Iff.rfl
  · exact h.changedAt_put s.key ⟨s.name, values⟩

end Header

namespace Writer

/-- **A rule changes the header that its operation is on**, and no other. -/
theorem Effect.changedAt {w w' : Writer} {o : Operation} {key : String} (he : w.Effect o w')
    (ho : o.subject? w.setters = some key) : w.header.ChangedAt key w'.header := by
  cases he with
  | claim name hc =>
    obtain rfl := Option.some.inj ho
    refine w.header.changedAt_remove (headerKey name) fun k hk => ?_
    rw [List.mem_append, List.mem_singleton]
    exact or_iff_left hk
  | assign index values s hs =>
    rw [Operation.subject?, hs] at ho
    obtain rfl := Option.some.inj ho
    exact w.header.changedAt_assign s values
  | idle => exact w.header.changedAt_self key
  | set name value hc =>
    obtain rfl := Option.some.inj ho
    exact w.header.changedAt_put _ _
  | add name value hc =>
    obtain rfl := Option.some.inj ho
    exact w.header.changedAt_put _ _
  | delete name hc =>
    obtain rfl := Option.some.inj ho
    exact w.header.changedAt_remove _ fun _ _ => Iff.rfl
  | write body status hw => cases ho

theorem changedAt_after {w : Writer} {o : Operation} {key : String}
    (ho : o.subject? w.setters = some key) : w.header.ChangedAt key (w.after o).header := by
  rcases effect_or_after_eq w o with he | he
  · exact he.changedAt ho
  · rw [he]
    exact w.header.changedAt_self key

/-- An operation that is on no header changes none. -/
theorem header_after_of_subject_none {w : Writer} {o : Operation} (ho : o.subject? w.setters = none) :
    (w.after o).header = w.header := by
  rcases effect_or_after_eq w o with he | he
  · generalize w.after o = w' at he
    cases he with
    | claim => cases ho
    | assign index values s hs =>
      rw [Operation.subject?, hs] at ho
      cases ho
    | idle => rfl
    | set => cases ho
    | add => cases ho
    | delete => cases ho
    | write => rfl
  · rw [he]

end Writer

namespace Header

/-! ## 3. What can be seen of the others -/

section Seen

variable {h h' : Header} {key : String}

theorem ChangedAt.values (hc : h.ChangedAt key h') {name : String} (hn : headerKey name ≠ key) :
    h'.values name = h.values name := by
  have hfind : ∀ h : Header, h.entries.find? (headerKey name)
      = (h.entries.remove key).find? (headerKey name) := by
    intro h
    rw [Keyed.find?_remove, if_neg (Ne.symm hn)]
  rw [Header.values, Header.values, hfind h', hfind h, hc.others]

theorem ChangedAt.isClaimed (hc : h.ChangedAt key h') {name : String} (hn : headerKey name ≠ key) :
    h'.isClaimed name = h.isClaimed name := by
  rw [Bool.eq_iff_iff, isClaimed_eq_true_iff, isClaimed_eq_true_iff]
  exact hc.claims (headerKey name) hn

/-- What sound headers emit besides the one under a key is what they emit without it. -/
theorem Sound.items_besides (hs : h.Sound) (key : String) :
    h.items.filter (fun e => decide (headerKey e.name ≠ key))
      = ((h.entries.remove key).map Prod.snd).filter (!·.values.isEmpty) := by
  have hremove : (h.entries.remove key).map Prod.snd
      = (h.entries.map Prod.snd).filter (fun e => decide (headerKey e.name ≠ key)) := by
    rw [Keyed.remove, List.filter_map]
    refine congrArg (List.map Prod.snd) (List.filter_congr fun e he => ?_)
    rw [Function.comp_apply, hs.named e he]
  rw [hremove, items, List.filter_filter, List.filter_filter]
  exact List.filter_congr fun e _ => Bool.and_comm _ _

/-- **The other headers are emitted as before**: with the same spellings and values, in the same
    order. -/
theorem ChangedAt.items (hc : h.ChangedAt key h') (hs : h.Sound) (hs' : h'.Sound) :
    h'.items.filter (fun e => decide (headerKey e.name ≠ key))
      = h.items.filter (fun e => decide (headerKey e.name ≠ key)) := by
  rw [hs.items_besides, hs'.items_besides, hc.others]

/-- A header that stays keeps its place. -/
theorem ChangedAt.keys_of_mem (hc : h.ChangedAt key h') (hk : key ∈ h.entries.keys)
    (hk' : key ∈ h'.entries.keys) : h'.entries.keys = h.entries.keys := by
  rcases hc.order with heq | ⟨hnew, -⟩ | hgone
  · exact heq
  · exact absurd hk hnew
  · rw [hgone, List.mem_filter] at hk'
    exact absurd rfl (of_decide_eq_true hk'.2)

/-- A header that comes to be there is the last one. -/
theorem ChangedAt.keys_of_not_mem (hc : h.ChangedAt key h') (hk : key ∉ h.entries.keys)
    (hk' : key ∈ h'.entries.keys) : h'.entries.keys = h.entries.keys ++ [key] := by
  rcases hc.order with heq | ⟨-, hlast⟩ | hgone
  · exact absurd (heq ▸ hk') hk
  · exact hlast
  · rw [hgone, List.mem_filter] at hk'
    exact absurd rfl (of_decide_eq_true hk'.2)

end Seen

end Header

/-! ## 4. The log of insertions -/

namespace Writer

/-- The keys of headers that are there after an operation and were not before. -/
def inserted (w : Writer) (o : Operation) : List String :=
  (w.after o).header.entries.keys.filter fun key => decide (key ∉ w.header.entries.keys)

/-- **The headers that come to be there in a run**, by their keys and in order. One that is taken out
    and comes back is listed again. -/
def insertions (w : Writer) : List Operation → List String
  | [] => []
  | o :: rest => w.inserted o ++ (w.after o).insertions rest

end Writer

/-- **The headers that come to be there from the start on.** At the start a name is inserted where it
    is first mentioned. -/
def insertionsOf (initial : List (String × List String)) (ops : List Operation) : List String :=
  (initial.map fun e => headerKey e.1).eraseDups ++ (Writer.start initial).insertions ops

/-- **Keys in the order of their last occurrences in a log.** -/
def Arranged (log keys : List String) : Prop := keys = log.dedup.filter fun k => decide (k ∈ keys)

theorem arranged_self {keys : List String} (h : keys.Nodup) : Arranged keys keys := by
  rw [Arranged, h.dedup, List.filter_eq_self.2]
  exact fun k hk => decide_eq_true hk

theorem Arranged.concat {log keys : List String} (h : Arranged log keys) {key : String}
    (hk : key ∉ keys) : Arranged (log ++ [key]) (keys ++ [key]) := by
  have hlast : [key].filter (fun k => decide (k ∈ keys ++ [key])) = [key] := by
    rw [List.filter_eq_self]
    exact fun k hmem => decide_eq_true (List.mem_append_right _ hmem)
  rw [Arranged, dedup_concat, List.filter_append, List.filter_filter, hlast]
  refine congrArg (· ++ [key]) (h.trans (List.filter_congr fun k _ => ?_))
  rw [← Bool.decide_and]
  refine decide_eq_decide.2 ?_
  rw [List.mem_append, List.mem_singleton]
  constructor
  · intro hmem
    exact ⟨Or.inl hmem, fun heq => hk (heq ▸ hmem)⟩
  · rintro ⟨hmem | heq, hne⟩
    · exact hmem
    · exact absurd heq hne

theorem Arranged.without {log keys : List String} (h : Arranged log keys) (key : String) :
    Arranged log (keys.filter fun k => decide (k ≠ key)) := by
  have hfilter := congrArg (List.filter fun k => decide (k ≠ key)) h
  rw [List.filter_filter] at hfilter
  refine hfilter.trans (List.filter_congr fun k _ => ?_)
  rw [← Bool.decide_and]
  refine decide_eq_decide.2 ?_
  rw [List.mem_filter, decide_eq_true_eq, and_comm]

namespace Writer

/-- The log of one operation, from what it does to the order. -/
theorem inserted_of_subset {w : Writer} {o : Operation}
    (h : ∀ key ∈ (w.after o).header.entries.keys, key ∈ w.header.entries.keys) : w.inserted o = [] := by
  rw [inserted, List.filter_eq_nil_iff]
  intro key hk hnew
  exact of_decide_eq_true hnew (h key hk)

/-- **An operation keeps the order that the log tells.** -/
theorem arranged_after {w : Writer} {log : List String} (h : Arranged log w.header.entries.keys)
    (o : Operation) : Arranged (log ++ w.inserted o) (w.after o).header.entries.keys := by
  -- what is there no more, or was there before, leaves the log as it is
  have hsubset : (∀ key ∈ (w.after o).header.entries.keys, key ∈ w.header.entries.keys) →
      Arranged log (w.after o).header.entries.keys →
      Arranged (log ++ w.inserted o) (w.after o).header.entries.keys := by
    intro hs harranged
    rw [inserted_of_subset hs, List.append_nil]
    exact harranged
  cases ho : o.subject? w.setters with
  | none =>
    rw [header_after_of_subject_none ho] at hsubset ⊢
    exact hsubset (fun _ hk => hk) h
  | some key =>
    rcases (changedAt_after ho).order with heq | ⟨hnew, hlast⟩ | hgone
    · rw [heq] at hsubset ⊢
      exact hsubset (fun _ hk => hk) h
    · have hinserted : w.inserted o = [key] := by
        have hold : w.header.entries.keys.filter (fun k => decide (k ∉ w.header.entries.keys)) = [] := by
          rw [List.filter_eq_nil_iff]
          intro k hk hnot
          exact of_decide_eq_true hnot hk
        rw [inserted, hlast, List.filter_append, hold, List.filter_cons, if_pos (decide_eq_true hnew)]
        rfl
      rw [hinserted, hlast]
      exact h.concat hnew
    · rw [hgone] at hsubset ⊢
      exact hsubset (fun _ hk => List.mem_of_mem_filter hk) (h.without key)

/-- **A run keeps the order that the log tells.** -/
theorem arranged_afterAll {w : Writer} {log : List String} (h : Arranged log w.header.entries.keys)
    (ops : List Operation) :
    Arranged (log ++ w.insertions ops) (w.afterAll ops).header.entries.keys := by
  induction ops generalizing w log with
  | nil =>
    rw [insertions, List.append_nil]
    exact h
  | cons o rest ih =>
    rw [insertions, ← List.append_assoc, afterAll_cons]
    exact ih (arranged_after h o)

/-- **The entries stand in the order of their last insertion.** -/
theorem arranged_insertionsOf (initial : List (String × List String)) (ops : List Operation) :
    Arranged (insertionsOf initial ops) ((start initial).afterAll ops).header.entries.keys := by
  have hstart : (start initial).header.entries.keys = (initial.map fun e => headerKey e.1).eraseDups := by
    show (Keyed.ofList _).keys = _
    rw [Keyed.keys_ofList, List.map_map]
    rfl
  have hnodup := (sound_start initial).header.nodup
  rw [insertionsOf, ← hstart]
  exact arranged_afterAll (arranged_self hnodup) ops

end Writer

/-! ## 5. The order of what is emitted -/

namespace Header

/-- Entries stand under keys. -/
theorem Sound.headerKey_of_mem_keys {h : Header} (hs : h.Sound) {key : String}
    (hk : key ∈ h.entries.keys) : headerKey key = key := by
  obtain ⟨e, he, rfl⟩ := List.mem_map.1 hk
  rw [← hs.named e he, headerKey_headerKey]

/-- The keys of what is emitted are the keys of the entries with values. -/
theorem Sound.keys_items {h : Header} (hs : h.Sound) :
    h.items.map (fun e => headerKey e.name) = h.entries.keys.filter h.contains := by
  have hnonempty : ∀ e ∈ h.entries, (!e.2.values.isEmpty) = h.contains e.1 := by
    intro e he
    have hkey := hs.headerKey_of_mem_keys (List.mem_map_of_mem he)
    have hfind := (Keyed.find?_eq_some_iff hs.nodup e.1 e.2).2 he
    rw [contains, Header.values, hkey, hfind]
    rfl
  rw [items, List.filter_map, List.map_map, Keyed.keys, List.filter_map]
  show (h.entries.filter fun e => !e.2.values.isEmpty).map (fun e => headerKey e.2.name)
    = (h.entries.filter fun e => h.contains e.1).map Prod.fst
  rw [List.filter_congr hnonempty]
  exact List.map_congr_left fun e he => hs.named e (List.mem_of_mem_filter he)

theorem mem_keys_of_contains {h : Header} {key : String} (hc : h.contains key = true)
    (hk : headerKey key = key) : key ∈ h.entries.keys := by
  rw [← Keyed.find?_isSome_iff]
  cases hfind : h.entries.find? key with
  | some e => rfl
  | none =>
    rw [contains_eq_true_iff, Header.values, hk, hfind] at hc
    exact absurd rfl hc

end Header

namespace Writer

/-- What is logged are keys. -/
theorem headerKey_of_mem_insertions {w : Writer} (hw : w.Sound) {ops : List Operation} {key : String}
    (hk : key ∈ w.insertions ops) : headerKey key = key := by
  induction ops generalizing w with
  | nil => cases hk
  | cons o rest ih =>
    have hnext : (w.after o).Sound := sound_after hw o
    rcases List.mem_append.1 hk with hk | hk
    · exact hnext.header.headerKey_of_mem_keys (List.mem_of_mem_filter hk)
    · exact ih hnext hk

theorem headerKey_of_mem_insertionsOf {initial : List (String × List String)} {ops : List Operation}
    {key : String} (hk : key ∈ insertionsOf initial ops) : headerKey key = key := by
  rcases List.mem_append.1 hk with hk | hk
  · obtain ⟨e, -, rfl⟩ := List.mem_map.1 (List.mem_eraseDups.1 hk)
    exact headerKey_headerKey e.1
  · exact headerKey_of_mem_insertions (sound_start initial) hk

/-- **What is emitted stands in the order of its last insertion.** -/
theorem keys_items_afterAll (initial : List (String × List String)) (ops : List Operation) :
    let h := ((start initial).afterAll ops).header
    h.items.map (fun e => headerKey e.name) = (insertionsOf initial ops).dedup.filter h.contains := by
  intro h
  have hs : h.Sound := (sound_afterAll (sound_start initial) ops).header
  have harranged : Arranged (insertionsOf initial ops) h.entries.keys :=
    arranged_insertionsOf initial ops
  rw [hs.keys_items, harranged, List.filter_filter]
  refine List.filter_congr fun key hk => ?_
  have hkey := headerKey_of_mem_insertionsOf (List.mem_dedup.1 hk)
  rw [Bool.and_eq_left_iff_imp]
  exact fun hc => decide_eq_true (Header.mem_keys_of_contains hc hkey)

/-- **Headers keep their places**, whatever was there at the start and in whatever order headers are
    claimed, set, added to, deleted and written by setters:

    * an operation on a header leaves the values of every other one, whether it is claimed, the
      spelling it is emitted under and the order of the others as they are, of those that are emitted
      as well as of all that are there;
    * the header itself keeps its place if it stays, and is the last one if it was not there before;
    * so headers are emitted in the order of their last insertion: of several insertions of one header
      the last one counts. -/
theorem headers_keep_their_places (initial : List (String × List String)) (ops : List Operation) :
    let w := (start initial).afterAll ops
    (∀ o key, o.subject? w.setters = some key →
      let h := w.header
      let h' := (w.after o).header
      (∀ name, headerKey name ≠ key →
        h'.values name = h.values name ∧ h'.isClaimed name = h.isClaimed name) ∧
      h'.items.filter (fun e => decide (headerKey e.name ≠ key))
        = h.items.filter (fun e => decide (headerKey e.name ≠ key)) ∧
      h'.entries.remove key = h.entries.remove key ∧
      (key ∈ h.entries.keys → key ∈ h'.entries.keys → h'.entries.keys = h.entries.keys) ∧
      (key ∉ h.entries.keys → key ∈ h'.entries.keys → h'.entries.keys = h.entries.keys ++ [key])) ∧
    w.header.items.map (fun e => headerKey e.name)
      = (insertionsOf initial ops).dedup.filter w.header.contains := by
  intro w
  have hw : w.Sound := sound_afterAll (sound_start initial) ops
  refine ⟨fun o key ho => ?_, keys_items_afterAll initial ops⟩
  have hc : w.header.ChangedAt key (w.after o).header := changedAt_after ho
  have hnext : (w.after o).Sound := sound_after hw o
  exact ⟨fun name hn => ⟨hc.values hn, hc.isClaimed hn⟩, hc.items hw.header hnext.header, hc.others,
    hc.keys_of_mem, hc.keys_of_not_mem⟩

/-- A header without values is there and keeps its place; one that was deleted comes back as the last. -/
example :
    let ops : List Operation := [.delete "x-a", .add "X-C" "2", .add "X-B" "3", .set "X-A" "4"]
    insertionsOf [("X-A", ["1"]), ("X-B", [])] ops = ["x-a", "x-b", "x-c", "x-a"] ∧
      ((start [("X-A", ["1"]), ("X-B", [])]).afterAll ops).header.items
        = [⟨"X-B", ["3"]⟩, ⟨"X-C", ["2"]⟩, ⟨"X-A", ["4"]⟩] := by
  decide +kernel

end Writer

end OpenerPolicy
