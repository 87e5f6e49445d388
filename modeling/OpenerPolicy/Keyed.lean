/-
  File:      OpenerPolicy/Keyed.lean
  Subject:   LISTS OF ENTRIES UNDER KEYS, IN ORDER OF INSERTION.

  Headers, the members of a JSON object and request headers are all of this kind: a key occurs
  once, a new key goes to the end, and a key that is put again keeps its place.

  * `find?`, `put`, `remove` -- look up, insert or replace in place, take out;
  * `ofList` -- the entries of a list put one after the other: a repeated key keeps its first
    place and takes its last value;
  * `find?_put`, `find?_remove`, `find?_append` -- what a look-up sees after a change, for every key;
  * `put_eq_append`, `put_eq_map`, `keys_put`, `keys_remove` -- what a change does to the order of the
    keys;
  * `nodup_keys_put`, `nodup_keys_remove`, `nodup_keys_ofList` -- no key ever occurs twice;
  * `remove_put_self`, `remove_put_of_ne`, `remove_remove_self`, `remove_remove_comm` -- what is left
    once a key is taken out, after a change of it and after a change of another;
  * `mem_of_mem_put`, `mem_remove`, `mem_of_mem_ofList` -- where the entries come from;
  * `find?_eq_some_iff`, `find?_of_perm` -- where no key occurs twice, a look-up finds what is there,
    in whatever order;
  * `find?_foldl_put`, `foldl_put_cons`, **`foldl_put`** -- what becomes of entries when others are put
    one after the other.
-/

namespace OpenerPolicy

/-- Entries under keys, in order of insertion. -/
abbrev Keyed (κ α : Type) := List (κ × α)

namespace Keyed

variable {κ α : Type} [DecidableEq κ]

def keys (l : Keyed κ α) : List κ := l.map Prod.fst

omit [DecidableEq κ] in
@[simp] theorem keys_nil : keys ([] : Keyed κ α) = [] := rfl

omit [DecidableEq κ] in
@[simp] theorem keys_cons (e : κ × α) (l : Keyed κ α) : keys (e :: l) = e.1 :: keys l := rfl

/-- The entry under a key. -/
def find? (l : Keyed κ α) (k : κ) : Option α :=
  match l with
  | [] => none
  | (k', a) :: rest => if k' = k then some a else find? rest k

/-- **Puts an entry under a key**: in place if the key is there, at the end otherwise. -/
def put (l : Keyed κ α) (k : κ) (a : α) : Keyed κ α :=
  match l with
  | [] => [(k, a)]
  | (k', a') :: rest => if k' = k then (k, a) :: rest else (k', a') :: put rest k a

/-- Takes out the entry under a key. -/
def remove (l : Keyed κ α) (k : κ) : Keyed κ α := l.filter (fun e => e.1 ≠ k)

/-- The entries of a list, put one after the other. -/
def ofList (entries : List (κ × α)) : Keyed κ α := entries.foldl (fun l e => put l e.1 e.2) []

/-! ## 1. Looking up after a change -/

@[simp] theorem find?_nil (k : κ) : find? ([] : Keyed κ α) k = none := rfl

@[simp] theorem find?_put (l : Keyed κ α) (k k' : κ) (a : α) :
    find? (put l k a) k' = if k = k' then some a else find? l k' := by
  induction l with
  | nil => simp [put, find?]
  | cons e rest ih =>
    obtain ⟨k₀, a₀⟩ := e
    by_cases h : k₀ = k
    · subst h
      by_cases h' : k₀ = k' <;> simp [put, find?, h']
    · by_cases h' : k₀ = k'
      · subst h'
        simp [put, find?, h, Ne.symm h]
      · simp [put, find?, h, h', ih]

@[simp] theorem find?_remove (l : Keyed κ α) (k k' : κ) :
    find? (remove l k) k' = if k = k' then none else find? l k' := by
  induction l with
  | nil => simp [remove, find?]
  | cons e rest ih =>
    obtain ⟨k₀, a₀⟩ := e
    simp only [remove] at ih
    by_cases h : k₀ = k
    · subst h
      simp only [remove, ne_eq, not_true_eq_false, decide_false, Bool.false_eq_true,
        not_false_eq_true, List.filter_cons_of_neg, ih, find?]
      split <;> rfl
    · by_cases h' : k₀ = k'
      · subst h'
        simp [remove, find?, h, Ne.symm h]
      · simp only [remove, ne_eq, h, not_false_eq_true, decide_true, List.filter_cons_of_pos,
          find?, h', if_false, ih]

theorem find?_append (l l' : Keyed κ α) (k : κ) :
    find? (l ++ l') k = (find? l k).or (find? l' k) := by
  induction l with
  | nil => rfl
  | cons e rest ih =>
    by_cases h : e.1 = k
    · simp [find?, h]
    · simp [find?, h, ih]

/-! ## 2. The order of the keys -/

/-- A new key goes to the end. -/
theorem put_eq_append {l : Keyed κ α} {k : κ} (hk : k ∉ l.keys) (a : α) :
    l.put k a = l ++ [(k, a)] := by
  induction l with
  | nil => rfl
  | cons e rest ih =>
    rw [keys_cons, List.mem_cons, not_or] at hk
    rw [put, if_neg (Ne.symm hk.1), ih hk.2]
    rfl

/-- A key that is there keeps its place. -/
theorem put_eq_map {l : Keyed κ α} {k : κ} (hl : l.keys.Nodup) (hk : k ∈ l.keys) (a : α) :
    l.put k a = l.map fun e => (e.1, if e.1 = k then a else e.2) := by
  induction l with
  | nil => cases hk
  | cons e rest ih =>
    obtain ⟨k', a'⟩ := e
    obtain ⟨hk', hrest⟩ := List.nodup_cons.1 hl
    by_cases h : k' = k
    · subst h
      have hother : rest.map (fun e => (e.1, if e.1 = k' then a else e.2)) = rest := by
        refine (List.map_congr_left fun e he => ?_).trans (List.map_id rest)
        have hne : e.1 ≠ k' := fun heq => hk' (List.mem_map.2 ⟨e, he, heq⟩)
        rw [if_neg hne]
        rfl
      rw [put, if_pos rfl, List.map_cons, hother, if_pos rfl]
    · have hlater : k ∈ keys rest := (List.mem_cons.1 hk).resolve_left (Ne.symm h)
      rw [put, if_neg h, List.map_cons, if_neg h, ih hrest hlater]

theorem keys_put (l : Keyed κ α) (k : κ) (a : α) :
    (put l k a).keys = if k ∈ l.keys then l.keys else l.keys ++ [k] := by
  induction l with
  | nil => rfl
  | cons e rest ih =>
    by_cases h : e.1 = k
    · simp [put, h]
    · by_cases hm : k ∈ keys rest
      · rw [if_pos hm] at ih
        simp [put, h, ih, hm]
      · rw [if_neg hm] at ih
        simp [put, h, ih, hm, Ne.symm h]

theorem keys_remove (l : Keyed κ α) (k : κ) : (remove l k).keys = l.keys.filter (· ≠ k) := by
  simp [remove, keys, List.filter_map, Function.comp_def]

theorem nodup_keys_put (l : Keyed κ α) (k : κ) (a : α) (h : l.keys.Nodup) :
    (put l k a).keys.Nodup := by
  rw [keys_put]
  split
  · exact h
  · next hk =>
    refine List.nodup_append.2 ⟨h, by simp, ?_⟩
    rintro x hx y hy rfl
    exact hk (List.mem_singleton.1 hy ▸ hx)

theorem nodup_keys_remove (l : Keyed κ α) (k : κ) (h : l.keys.Nodup) :
    (remove l k).keys.Nodup := by
  rw [keys_remove]
  exact h.filter _

theorem nodup_keys_ofList (entries : List (κ × α)) : (ofList entries).keys.Nodup := by
  have go : ∀ (l : Keyed κ α), l.keys.Nodup →
      (entries.foldl (fun l e => put l e.1 e.2) l).keys.Nodup := by
    induction entries with
    | nil => exact fun _ h => h
    | cons e rest ih => exact fun l h => ih _ (nodup_keys_put l e.1 e.2 h)
  exact go [] (by simp [keys])

/-- A key has an entry exactly if it is among the keys. -/
theorem find?_isSome_iff (l : Keyed κ α) (k : κ) : (find? l k).isSome ↔ k ∈ l.keys := by
  induction l with
  | nil => simp [find?]
  | cons e rest ih =>
    by_cases h : e.1 = k
    · simp [find?, h]
    · simp [find?, h, Ne.symm h, ih]

/-- A key has no entry exactly if it is not among the keys. -/
theorem find?_eq_none_iff (l : Keyed κ α) (k : κ) : find? l k = none ↔ k ∉ l.keys := by
  rw [← Option.not_isSome_iff_eq_none, find?_isSome_iff]

/-! ## 3. The other entries -/

theorem remove_cons (e : κ × α) (l : Keyed κ α) (k : κ) :
    remove (e :: l) k = if e.1 = k then l.remove k else e :: l.remove k := by
  by_cases h : e.1 = k <;> simp [remove, h]

/-- What was put under a key goes with it. -/
theorem remove_put_self (l : Keyed κ α) (k : κ) (a : α) : (put l k a).remove k = l.remove k := by
  induction l with
  | nil => simp [put, remove]
  | cons e rest ih =>
    obtain ⟨k', a'⟩ := e
    by_cases h : k' = k
    · rw [put, if_pos h, remove_cons, remove_cons, if_pos rfl, if_pos h]
    · rw [put, if_neg h, remove_cons, remove_cons, if_neg h, if_neg h, ih]

theorem remove_put_of_ne (l : Keyed κ α) {k k' : κ} (hk : k ≠ k') (a : α) :
    (put l k a).remove k' = (l.remove k').put k a := by
  induction l with
  | nil => simp [put, remove, hk]
  | cons e rest ih =>
    obtain ⟨k₀, a₀⟩ := e
    by_cases h : k₀ = k
    · subst h
      rw [put, if_pos rfl, remove_cons, remove_cons, if_neg hk, if_neg hk, put, if_pos rfl]
    · rw [put, if_neg h, remove_cons, remove_cons, ih]
      split
      · rfl
      · rw [put, if_neg h]

theorem remove_remove_self (l : Keyed κ α) (k : κ) : (l.remove k).remove k = l.remove k := by
  rw [remove, remove, List.filter_filter]
  simp only [Bool.and_self]

theorem remove_remove_comm (l : Keyed κ α) (k k' : κ) :
    (l.remove k).remove k' = (l.remove k').remove k := by
  rw [remove, remove, remove, remove, List.filter_filter, List.filter_filter]
  exact List.filter_congr fun e _ => Bool.and_comm _ _

/-! ## 4. The entries -/

theorem mem_of_mem_put {l : Keyed κ α} {k : κ} {a : α} {e : κ × α} (h : e ∈ put l k a) :
    e = (k, a) ∨ e ∈ l := by
  induction l with
  | nil => exact Or.inl (List.mem_singleton.1 h)
  | cons e' rest ih =>
    unfold put at h
    split at h
    · exact (List.mem_cons.1 h).imp id (List.mem_cons_of_mem e')
    · rcases List.mem_cons.1 h with rfl | h
      · exact Or.inr List.mem_cons_self
      · exact (ih h).imp id (List.mem_cons_of_mem e')

theorem mem_remove (l : Keyed κ α) (k : κ) (e : κ × α) : e ∈ remove l k ↔ e ∈ l ∧ e.1 ≠ k := by
  simp [remove]

theorem mem_of_mem_ofList {entries : List (κ × α)} {e : κ × α} (h : e ∈ ofList entries) :
    e ∈ entries := by
  have go : ∀ (entries : List (κ × α)) (l : Keyed κ α),
      e ∈ entries.foldl (fun l e => put l e.1 e.2) l → e ∈ l ∨ e ∈ entries := by
    intro entries
    induction entries with
    | nil => exact fun l h => Or.inl h
    | cons e' rest ih =>
      intro l h
      rcases ih (put l e'.1 e'.2) h with h | h
      · rcases mem_of_mem_put h with rfl | h
        · exact Or.inr List.mem_cons_self
        · exact Or.inl h
      · exact Or.inr (List.mem_cons_of_mem e' h)
  exact (go entries [] h).resolve_left List.not_mem_nil

/-- **Where no key occurs twice, a look-up finds what is there.** -/
theorem find?_eq_some_iff {l : Keyed κ α} (h : l.keys.Nodup) (k : κ) (a : α) :
    find? l k = some a ↔ (k, a) ∈ l := by
  induction l with
  | nil => simp
  | cons e rest ih =>
    obtain ⟨k', a'⟩ := e
    obtain ⟨hk', hrest⟩ := List.nodup_cons.1 h
    by_cases hk : k' = k
    · subst hk
      have hn : (k', a) ∉ rest := fun hm => hk' (List.mem_map.2 ⟨(k', a), hm, rfl⟩)
      simp [find?, hn, eq_comm]
    · simp [find?, hk, Ne.symm hk, ih hrest]

/-- **Where no key occurs twice, the order makes no difference to a look-up.** -/
theorem find?_of_perm {l l' : Keyed κ α} (h : l.Perm l') (hl : l.keys.Nodup) (k : κ) :
    find? l k = find? l' k := by
  have hl' : l'.keys.Nodup := (h.map Prod.fst).nodup hl
  have hsame (a : α) : find? l k = some a ↔ find? l' k = some a := by
    rw [find?_eq_some_iff hl, find?_eq_some_iff hl', h.mem_iff]
  exact Option.ext hsame

/-! ## 5. Entries put one after the other -/

/-- A key that none of the entries is under keeps what it has. -/
theorem find?_foldl_put {l entries : Keyed κ α} {k : κ} (h : find? entries k = none) :
    find? (entries.foldl (fun l e => l.put e.1 e.2) l) k = find? l k := by
  induction entries generalizing l with
  | nil => rfl
  | cons e rest ih =>
    by_cases hk : e.1 = k
    · simp [find?, hk] at h
    · rw [find?, if_neg hk] at h
      rw [List.foldl_cons, ih h, find?_put, if_neg hk]

/-- The first key stays the first. -/
theorem foldl_put_cons (entries l : Keyed κ α) (k : κ) (a : α) :
    ∃ a' l', entries.foldl (fun l e => put l e.1 e.2) ((k, a) :: l) = (k, a') :: l' := by
  induction entries generalizing l a with
  | nil => exact ⟨a, l, rfl⟩
  | cons e rest ih =>
    rw [List.foldl_cons, put]
    split
    · next h =>
      subst h
      exact ih l e.2
    · exact ih _ a

/-- **Entries put one after the other**: the keys that are there keep their places and take new
    entries, and the others follow in their order. -/
theorem foldl_put {l entries : Keyed κ α} (hl : l.keys.Nodup) (h : entries.keys.Nodup) :
    entries.foldl (fun l e => l.put e.1 e.2) l
      = l.map (fun e => (e.1, (find? entries e.1).getD e.2))
        ++ entries.filter fun e => e.1 ∉ l.keys := by
  induction entries generalizing l with
  | nil => simp
  | cons e rest ih =>
    obtain ⟨k, a⟩ := e
    obtain ⟨hk, hrest⟩ := List.nodup_cons.1 h
    have hnone : find? rest k = none := (find?_eq_none_iff rest k).2 hk
    rw [List.foldl_cons, ih (nodup_keys_put l k a hl) hrest]
    have hkeys := keys_put l k a
    -- a key that is there takes its place, and none of the later entries is under it
    by_cases hkl : k ∈ l.keys
    · rw [if_pos hkl] at hkeys
      rw [hkeys, put_eq_map hl hkl, List.map_map, List.filter_cons_of_neg (by simp [hkl])]
      refine congrArg (· ++ _) (List.map_congr_left fun e _ => ?_)
      by_cases he : e.1 = k
      · simp [he, hnone, find?]
      · simp [he, Ne.symm he, find?]
    · rw [if_neg hkl] at hkeys
      have hplaces : l.map (fun e => (e.1, (find? rest e.1).getD e.2))
          = l.map fun e => (e.1, (find? ((k, a) :: rest) e.1).getD e.2) := by
        refine List.map_congr_left fun e he => ?_
        have hne : k ≠ e.1 := fun heq => hkl (List.mem_map.2 ⟨e, he, heq.symm⟩)
        simp [find?, hne]
      have hothers : rest.filter (fun e => e.1 ∉ l.keys ++ [k]) = rest.filter fun e => e.1 ∉ l.keys := by
        refine List.filter_congr fun e he => ?_
        have hne : e.1 ≠ k := fun heq => hk (List.mem_map.2 ⟨e, he, heq⟩)
        simp [hne]
      rw [hkeys, put_eq_append hkl, List.map_append, hplaces, hothers,
        List.filter_cons_of_pos (by simp [hkl]), List.append_assoc]
      simp [hnone]

end Keyed

end OpenerPolicy
