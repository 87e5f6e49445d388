/-
  File:      OpenerPolicy/Proofs/Response/Reading.lean
  Subject:   WHAT HEADERS ANSWER AND WHAT THEY EMIT AGREE.

  Headers are asked by name, and they are emitted as a list. After every run the two say the same: a
  name has the values that are emitted under it, and the claimed names, listed in lowercase, can be
  asked for as they stand.

  * `Sound.pairwise_items`, `nonempty_items` -- what is emitted has different names, and values;
  * `Sound.values_of_mem_items`, `Sound.mem_items_iff` -- a name has the values of the header that is
    emitted under it, and it has some exactly if there is one;
  * `Sound.pairwise_claimed`, `isClaimed_iff_mem_claimed` -- the claimed names are in order, each of
    them once, and they are the names of claimed headers;
  * **`answers_agree_with_items`** -- so it is after every run from every start.
-/
import OpenerPolicy.Proofs.Response.Operations

namespace OpenerPolicy

namespace Header

/-! ## 1. What is emitted -/

/-- No two headers of a sound map have one key. -/
theorem Sound.pairwise_items {h : Header} (hs : h.Sound) :
    h.items.Pairwise fun e e' => headerKey e.name ≠ headerKey e'.name := by
  have hkeys : h.entries.Pairwise fun e e' => headerKey e.2.name ≠ headerKey e'.2.name := by
    have hnodup : h.entries.Pairwise fun e e' => e.1 ≠ e'.1 := List.pairwise_map.1 hs.nodup
    refine hnodup.imp_of_mem fun {e e'} he he' hne => ?_
    rw [hs.named e he, hs.named e' he']
    exact hne
  have hmapped : (h.entries.map Prod.snd).Pairwise fun e e' => headerKey e.name ≠ headerKey e'.name :=
    List.pairwise_map.2 hkeys
  exact hmapped.sublist List.filter_sublist

/-- A header without values is not emitted. -/
theorem nonempty_items {h : Header} {e : Entry} (he : e ∈ h.items) : e.values ≠ [] := by
  obtain ⟨-, hvalues⟩ := List.mem_filter.1 he
  simpa using hvalues

/-- What is emitted is found under its name. -/
theorem Sound.find?_of_mem_items {h : Header} (hs : h.Sound) {e : Entry} (he : e ∈ h.items) :
    h.entries.find? (headerKey e.name) = some e := by
  obtain ⟨hmem, -⟩ := List.mem_filter.1 he
  obtain ⟨⟨key, e'⟩, hentry, rfl⟩ := List.mem_map.1 hmem
  have hname : headerKey e'.name = key := hs.named (key, e') hentry
  rw [hname]
  exact (Keyed.find?_eq_some_iff hs.nodup key e').2 hentry

/-- **A name has the values of the header that is emitted under it.** -/
theorem Sound.values_of_mem_items {h : Header} (hs : h.Sound) {e : Entry} (he : e ∈ h.items)
    {name : String} (hname : headerKey e.name = headerKey name) : h.values name = e.values := by
  rw [values, ← hname, hs.find?_of_mem_items he]
  rfl

/-- A header is emitted exactly if it has values. -/
theorem Sound.mem_items_iff {h : Header} (hs : h.Sound) (name : String) :
    (∃ e ∈ h.items, headerKey e.name = headerKey name) ↔ h.values name ≠ [] := by
  constructor
  · rintro ⟨e, he, hname⟩
    rw [hs.values_of_mem_items he hname]
    exact nonempty_items he
  · intro hne
    cases hfind : h.entries.find? (headerKey name) with
    | none =>
      rw [values, hfind] at hne
      exact absurd rfl hne
    | some e =>
      rw [values, hfind] at hne
      have hentry := (Keyed.find?_eq_some_iff hs.nodup (headerKey name) e).1 hfind
      have hmem : e ∈ h.entries.map Prod.snd := List.mem_map.2 ⟨(headerKey name, e), hentry, rfl⟩
      have hname : headerKey e.name = headerKey name := hs.named (headerKey name, e) hentry
      exact ⟨e, List.mem_filter.2 ⟨hmem, by simpa using hne⟩, hname⟩

theorem contains_eq_true_iff (h : Header) (name : String) :
    h.contains name = true ↔ h.values name ≠ [] := by
  simp [contains]

/-! ## 2. What is claimed -/

/-- **The claimed names are in order**, and no name is listed twice. -/
theorem Sound.pairwise_claimed {h : Header} (hs : h.Sound) : h.claimed.Pairwise (· < ·) := by
  have hnodup : h.claimed.Nodup := (Text.perm_ordered h.claims).nodup_iff.2 hs.claimsNodup
  refine (Text.pairwise_ordered h.claims).imp₂ (fun _ _ hle hne => ?_) hnodup
  exact Std.lt_of_le_of_ne hle hne

/-- A name is claimed exactly if its lowercase form is listed. -/
theorem isClaimed_iff_mem_claimed (h : Header) (name : String) :
    h.isClaimed name = true ↔ headerKey name ∈ h.claimed := by
  rw [isClaimed_eq_true_iff, claimed, Text.mem_ordered]

/-- **The names that are listed can be asked for as they stand.** -/
theorem Sound.isClaimed_of_mem_claimed {h : Header} (hs : h.Sound) {name : String}
    (hname : name ∈ h.claimed) : h.isClaimed name = true := by
  have hclaim : name ∈ h.claims := (Text.mem_ordered name h.claims).1 hname
  rw [isClaimed_eq_true_iff, hs.claimsKeys name hclaim]
  exact hclaim

end Header

/-! ## 3. After every run -/

namespace Writer

/-- **What headers answer is what they emit**, whatever was there at the start and in whatever order
    headers are claimed, set, added to, deleted and written by setters:

    * the headers that are emitted have names that differ even in lowercase, and values;
    * a name has the values that are emitted under it, however either is spelled, and no values if
      nothing is emitted under it; its first value and whether it is there are read off them;
    * the claimed names are listed by code points, each of them once; a name is claimed exactly if
      its lowercase form is listed, and so every name that is listed is claimed. -/
theorem answers_agree_with_items (initial : List (String × List String)) (ops : List Operation) :
    let h := ((start initial).afterAll ops).header
    (h.items.Pairwise fun e e' => headerKey e.name ≠ headerKey e'.name) ∧
    (∀ e ∈ h.items, e.values ≠ []) ∧
    (∀ name, ∀ e ∈ h.items, headerKey e.name = headerKey name → h.values name = e.values) ∧
    (∀ name, (∀ e ∈ h.items, headerKey e.name ≠ headerKey name) → h.values name = []) ∧
    (∀ name, h.get? name = (h.values name).head?) ∧
    (∀ name, h.contains name = true ↔ h.values name ≠ []) ∧
    h.claimed.Pairwise (· < ·) ∧
    (∀ name, h.isClaimed name = true ↔ headerKey name ∈ h.claimed) ∧
    (∀ name ∈ h.claimed, h.isClaimed name = true) := by
  intro h
  have hs : h.Sound := (sound_afterAll (sound_start initial) ops).header
  refine ⟨hs.pairwise_items, fun e he => Header.nonempty_items he,
    fun name e he hname => hs.values_of_mem_items he hname, fun name hnone => ?_, h.get?_eq_head?,
    h.contains_eq_true_iff, hs.pairwise_claimed, h.isClaimed_iff_mem_claimed,
    fun name hname => hs.isClaimed_of_mem_claimed hname⟩
  -- a name with values would be emitted
  refine Classical.byContradiction fun hne => ?_
  obtain ⟨e, he, hname⟩ := (hs.mem_items_iff name).2 hne
  exact hnone e he hname

end Writer

end OpenerPolicy
