/-
  File:      OpenerPolicy/Proofs/Text/Lowercase.lean
  Subject:   LOWERCASE TEXT STAYS AS IT IS.

  Names are the same if their lowercase forms are. That a lowercase form is its own lowercase form
  makes these forms the names of names: a table under lowercase names can be asked for any of them.

  * `CaseRun.misses`, `misses_lowercaseRuns` -- no image of a run is moved again, checked on the
    runs themselves and not point by point;
  * `lowerChar_of_mem` -- the characters of a lowercase form are their own lowercase forms;
  * **`lowercase_lowercase`** -- so lowercasing twice is lowercasing once, for every text;
  * `lowercase_latin1` -- text of Latin-1 stays within Latin-1.
-/
import OpenerPolicy.Text.Case
import OpenerPolicy.Text.Encoding

namespace OpenerPolicy.Text

/-! ## 1. Runs of code points -/

/-- Whether no image of a run is held by another: one of them lies below the other, or they take
    turns in steps of two. -/
def CaseRun.misses (r s : CaseRun) : Bool :=
  (r.target + (r.last - r.first)).blt s.first || s.last.blt r.target
    || (s.step.beq 2 && (r.step.beq 2 || r.first.beq r.last) && ((r.target + s.first) % 2).beq 1)

theorem map?_of_misses {r s : CaseRun} {c v : Nat} (h : r.misses s = true)
    (hv : r.map? c = some v) : s.map? v = none := by
  unfold CaseRun.map? at hv
  split at hv
  · next hc =>
    obtain ⟨hlo, hhi, hstep⟩ := hc
    obtain rfl := Option.some.inj hv
    refine if_neg fun hs => ?_
    obtain ⟨hslo, hshi, hsstep⟩ := hs
    simp only [CaseRun.misses, Bool.or_eq_true, Bool.and_eq_true, Nat.blt_eq, Nat.beq_eq] at h
    rcases h with (h | h) | ⟨⟨hs2, hr2⟩, hodd⟩
    · omega
    · omega
    · -- both go in steps of two, or the first run is a single point: the parities decide
      rw [hs2] at hsstep
      rcases hr2 with hr2 | hr1
      · rw [hr2] at hstep
        omega
      · omega
  · cases hv

/-- The capital I with a dot above, the only character with two in its place, as a run. -/
def dottedRun : CaseRun := ⟨0x130, 0x130, 1, 0x130⟩

theorem misses_lowercaseRuns :
    lowercaseRuns.all (fun r => (dottedRun :: lowercaseRuns).all r.misses) = true := by
  decide +kernel

/-- An image under the runs is moved by none of them, and it is no capital I with a dot. -/
theorem still_of_map? {r : CaseRun} (hr : r ∈ lowercaseRuns) {c v : Nat} (hv : r.map? c = some v) :
    v ≠ 0x130 ∧ lowercaseRuns.findSome? (·.map? v) = none := by
  have hall := List.all_eq_true.1 (List.all_eq_true.1 misses_lowercaseRuns r hr)
  refine ⟨?_, ?_⟩
  · rintro rfl
    have hd := map?_of_misses (hall dottedRun List.mem_cons_self) hv
    exact absurd hd (by decide)
  · rw [List.findSome?_eq_none_iff]
    exact fun s hs => map?_of_misses (hall s (List.mem_cons_of_mem _ hs)) hv

/-! ## 2. Characters -/

theorem toNat_ofNat {v : Nat} (h : v.isValidChar) : (Char.ofNat v).toNat = v := by
  rw [Char.ofNat, dif_pos h]
  rfl

theorem lowerChar_ofNat {v : Nat} (hd : v ≠ 0x130)
    (hv : lowercaseRuns.findSome? (·.map? v) = none) :
    lowerChar (Char.ofNat v) = [Char.ofNat v] := by
  by_cases hvalid : v.isValidChar
  · have hn : (Char.ofNat v).toNat = v := by
      rw [Char.ofNat, dif_pos hvalid]
      rfl
    have hne : Char.ofNat v ≠ '\u0130' := by
      intro h
      rw [h] at hn
      exact hd hn.symm
    rw [lowerChar, if_neg hne, hn, mapPoint, hv]
    rfl
  · -- no character has this number, and the one that stands in is the null character
    have h0 : Char.ofNat v = '\x00' := by simp [Char.ofNat, hvalid]; rfl
    rw [h0]
    decide +kernel

/-- **The characters of a lowercase form are their own lowercase forms.** -/
theorem lowerChar_of_mem {c d : Char} (h : d ∈ lowerChar c) : lowerChar d = [d] := by
  unfold lowerChar at h
  split at h
  · rcases List.mem_cons.1 h with rfl | h
    · decide +kernel
    · obtain rfl := List.mem_singleton.1 h
      decide +kernel
  · next hc =>
    obtain rfl := List.mem_singleton.1 h
    cases hv : lowercaseRuns.findSome? (·.map? c.toNat) with
    | none =>
      rw [mapPoint, hv, Option.getD_none, Char.ofNat_toNat, lowerChar, if_neg hc, mapPoint, hv,
        Option.getD_none, Char.ofNat_toNat]
    | some v =>
      obtain ⟨r, hr, hrv⟩ := List.exists_of_findSome?_eq_some hv
      obtain ⟨hd, hstill⟩ := still_of_map? hr hrv
      rw [mapPoint, hv, Option.getD_some]
      exact lowerChar_ofNat hd hstill

/-- A capital sigma is no lowercase form. -/
theorem ne_sigma_of_lowerChar {d : Char} (h : lowerChar d = [d]) : d ≠ 'Σ' := by
  rintro rfl
  exact absurd h (by decide +kernel)

/-! ## 3. Whole texts -/

theorem lowerChar_of_mem_lowerFrom {before s : List Char} {d : Char} (h : d ∈ lowerFrom before s) :
    lowerChar d = [d] := by
  induction s generalizing before with
  | nil => cases h
  | cons c rest ih =>
    rcases List.mem_append.1 h with h | h
    · split at h
      · obtain rfl := List.mem_singleton.1 h
        split <;> decide +kernel
      · exact lowerChar_of_mem h
    · exact ih h

theorem lowerFrom_of_forall {s : List Char} (h : ∀ d ∈ s, lowerChar d = [d]) (before : List Char) :
    lowerFrom before s = s := by
  induction s generalizing before with
  | nil => rfl
  | cons c rest ih =>
    have hc := h c List.mem_cons_self
    rw [lowerFrom, if_neg (ne_sigma_of_lowerChar hc), hc,
      ih (fun d hd => h d (List.mem_cons_of_mem c hd)) (c :: before)]
    rfl

/-- **Lowercasing twice is lowercasing once.** -/
@[simp] theorem lowercase_lowercase (s : String) : lowercase (lowercase s) = lowercase s := by
  unfold lowercase
  rw [String.toList_ofList, lowerFrom_of_forall fun d hd => lowerChar_of_mem_lowerFrom hd]

/-! ## 4. Latin-1 -/

/-- The runs that begin within Latin-1 have their images there. -/
theorem latin1_lowercaseRuns :
    lowercaseRuns.all (fun r => (0xFF).blt r.first || (r.target + (r.last - r.first)).blt 0x100)
      = true := by
  decide +kernel

theorem holds_of_mem_lowerChar {c d : Char} (hc : Latin1.holds c = true) (h : d ∈ lowerChar c) :
    Latin1.holds d = true := by
  have hlt : c.toNat < 0x100 := by simpa [Latin1.holds] using hc
  have hne : c ≠ '\u0130' := by
    rintro rfl
    exact absurd hc (by decide)
  rw [lowerChar, if_neg hne] at h
  obtain rfl := List.mem_singleton.1 h
  cases hv : lowercaseRuns.findSome? (·.map? c.toNat) with
  | none => rwa [mapPoint, hv, Option.getD_none, Char.ofNat_toNat]
  | some v =>
    obtain ⟨r, hr, hrv⟩ := List.exists_of_findSome?_eq_some hv
    have hrun := List.all_eq_true.1 latin1_lowercaseRuns r hr
    simp only [Bool.or_eq_true, Nat.blt_eq] at hrun
    unfold CaseRun.map? at hrv
    split at hrv
    · next hin =>
      obtain rfl := Option.some.inj hrv
      have hlt' : r.target + (c.toNat - r.first) < 0x100 := by omega
      rw [mapPoint, hv, Option.getD_some, Latin1.holds, decide_eq_true_eq]
      by_cases hvalid : (r.target + (c.toNat - r.first)).isValidChar
      · rwa [toNat_ofNat hvalid]
      · exact absurd (Or.inl (by omega)) hvalid
    · cases hrv

/-- **Lowercasing does not leave Latin-1.** -/
theorem lowercase_latin1 {s : String} (h : ∀ c ∈ s.toList, Latin1.holds c = true) :
    ∀ d ∈ (lowercase s).toList, Latin1.holds d = true := by
  have go : ∀ (l before : List Char), (∀ c ∈ l, Latin1.holds c = true) →
      ∀ d ∈ lowerFrom before l, Latin1.holds d = true := by
    intro l
    induction l with
    | nil => intro _ _ d hd; cases hd
    | cons c rest ih =>
      intro before hl d hd
      have hc := hl c List.mem_cons_self
      have hne : c ≠ 'Σ' := by
        rintro rfl
        exact absurd hc (by decide)
      rw [lowerFrom, if_neg hne] at hd
      rcases List.mem_append.1 hd with hd | hd
      · exact holds_of_mem_lowerChar hc hd
      · exact ih _ (fun e he => hl e (List.mem_cons_of_mem c he)) d hd
  rw [lowercase, String.toList_ofList]
  exact go s.toList [] h

end OpenerPolicy.Text
