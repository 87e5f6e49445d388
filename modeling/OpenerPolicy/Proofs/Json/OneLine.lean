/-
  File:      OpenerPolicy/Proofs/Json/OneLine.lean
  Subject:   A DOCUMENT ON ONE LINE HOLDS NO LINE FEED.

  The compact form is printable ASCII for every value there is: for doubles that are no numbers, for
  strings with half of a surrogate pair or with line feeds of their own, and however deep the value.

  * `printable_floatChars` -- doubles, from the parts of their written form;
  * `printable_textChars` -- strings;
  * **`printable_compact`** -- every value, by recursion on it.
-/
import OpenerPolicy.Proofs.Json.Integers

namespace OpenerPolicy.Json

open OpenerPolicy.Text OpenerPolicy.Number

/-- Characters that can be looked at one by one. -/
theorem printable_of_all {chars : List Char} (h : chars.all (fun c => decide (IsPrintable c.toNat))) :
    ∀ c ∈ chars, IsPrintable c.toNat :=
  fun c hc => of_decide_eq_true (List.all_eq_true.1 h c hc)

/-! ## 1. Doubles -/

section Doubles

variable {digits whole fraction : List Char}

theorem printable_zeros (n : Nat) : ∀ c ∈ List.replicate n '0', IsPrintable c.toNat := by
  intro c hc
  rw [List.eq_of_mem_replicate hc]
  decide

theorem printable_dropTrailingZeros (h : ∀ c ∈ digits, IsPrintable c.toNat) :
    ∀ c ∈ dropTrailingZeros digits, IsPrintable c.toNat := by
  intro c hc
  have hmem := List.dropWhile_subset _ (List.mem_reverse.1 hc)
  exact h c (List.mem_reverse.1 hmem)

theorem printable_joinPoint (keepPoint : Bool) (hwhole : ∀ c ∈ whole, IsPrintable c.toNat)
    (hfraction : ∀ c ∈ fraction, IsPrintable c.toNat) :
    ∀ c ∈ joinPoint keepPoint whole fraction, IsPrintable c.toNat := by
  unfold joinPoint
  split
  · exact hwhole
  · exact List.forall_mem_append.2 ⟨hwhole, List.forall_mem_cons.2 ⟨by decide, hfraction⟩⟩

theorem printable_placePoint (h : ∀ c ∈ digits, IsPrintable c.toNat) (point : Int) :
    (∀ c ∈ (placePoint digits point).1, IsPrintable c.toNat) ∧
      ∀ c ∈ (placePoint digits point).2, IsPrintable c.toNat := by
  unfold placePoint
  split
  · refine ⟨List.forall_mem_singleton.2 (by decide), ?_⟩
    exact List.forall_mem_append.2 ⟨printable_zeros _, h⟩
  · refine ⟨List.forall_mem_append.2 ⟨?_, printable_zeros _⟩, ?_⟩
    · exact fun c hc => h c (List.mem_of_mem_take hc)
    · exact fun c hc => h c (List.mem_of_mem_drop hc)

theorem printable_exponentChars (e : Int) : ∀ c ∈ exponentChars 'e' e, IsPrintable c.toNat := by
  have hsign : IsPrintable (if e < 0 then '-' else '+').toNat := by
    split <;> decide
  refine List.forall_mem_cons.2 ⟨by decide, List.forall_mem_cons.2 ⟨hsign, ?_⟩⟩
  exact List.forall_mem_append.2 ⟨printable_zeros _, printable_digitChars _⟩

theorem printable_scientificChars (keepPoint : Bool) (h : ∀ c ∈ digits, IsPrintable c.toNat)
    (point : Int) : ∀ c ∈ scientificChars keepPoint 'e' digits point, IsPrintable c.toNat := by
  refine List.forall_mem_append.2 ⟨printable_joinPoint keepPoint ?_ ?_, printable_exponentChars _⟩
  · exact fun c hc => h c (List.mem_of_mem_take hc)
  · exact fun c hc => h c (List.mem_of_mem_drop hc)

theorem printable_write (m : Nat) (e : Int) :
    ∀ c ∈ Layout.document.write m e, IsPrintable c.toNat := by
  unfold Layout.write
  split
  · exact printable_of_all (by decide)
  dsimp only
  have hdigits := printable_dropTrailingZeros (printable_digitChars (shortest m e).1)
  split
  · obtain ⟨hwhole, hfraction⟩ := printable_placePoint hdigits
      (((digitChars (shortest m e).1).length : Int) + (shortest m e).2)
    refine printable_joinPoint true hwhole ?_
    split
    · exact printable_of_all (by decide)
    · exact hfraction
  · exact printable_scientificChars false hdigits _

theorem printable_signed (negative : Bool) (h : ∀ c ∈ digits, IsPrintable c.toNat) :
    ∀ c ∈ (Binary64.signed negative digits).toList, IsPrintable c.toNat := by
  rw [Binary64.signed, String.toList_ofList]
  split
  · exact List.forall_mem_cons.2 ⟨by decide, h⟩
  · exact h

/-- **A double is written in printable ASCII**, and so are the values that are no numbers. -/
theorem printable_floatChars (x : Binary64) : ∀ c ∈ floatChars x, IsPrintable c.toNat := by
  cases x with
  | finite negative m e => exact printable_signed negative (printable_write m e)
  | infinite negative => exact printable_signed negative (printable_of_all (by decide))
  | nan => exact printable_of_all (by decide)

end Doubles

/-! ## 2. Strings -/

theorem printable_textChars (t : Text) : ∀ c ∈ textChars t, IsPrintable c.toNat := by
  have hquote : ∀ c ∈ ['"'], IsPrintable c.toNat := printable_of_all (by decide)
  refine List.forall_mem_cons.2 ⟨by decide, List.forall_mem_append.2 ⟨?_, hquote⟩⟩
  intro c hc
  obtain ⟨n, -, hc⟩ := List.mem_flatMap.1 hc
  exact printable_escapePoint n c hc

/-! ## 3. Values -/

mutual

theorem printable_compactChars : ∀ j : Json, ∀ c ∈ compactChars j, IsPrintable c.toNat
  | .null => printable_of_all (by decide)
  | .bool b => by cases b <;> exact printable_of_all (by decide)
  | .int n => printable_intChars n
  | .float x => printable_floatChars x
  | .text t => printable_textChars t
  | .list items => by
    rw [compactChars]
    have hclosed : ∀ c ∈ [']'], IsPrintable c.toNat := printable_of_all (by decide)
    have hitems := printable_compactItems items
    exact List.forall_mem_cons.2 ⟨by decide, List.forall_mem_append.2 ⟨hitems, hclosed⟩⟩
  | .members fields => by
    rw [compactChars]
    have hclosed : ∀ c ∈ ['}'], IsPrintable c.toNat := printable_of_all (by decide)
    have hfields := printable_compactMembers fields
    exact List.forall_mem_cons.2 ⟨by decide, List.forall_mem_append.2 ⟨hfields, hclosed⟩⟩

theorem printable_compactItems : ∀ items : List Json,
    ∀ c ∈ compactItems items, IsPrintable c.toNat
  | [] => by
    rw [compactItems]
    exact fun c hc => absurd hc List.not_mem_nil
  | [item] => by
    rw [compactItems]
    exact printable_compactChars item
  | item :: second :: rest => by
    have hrest := printable_compactItems (second :: rest)
    rw [compactItems]
    · refine List.forall_mem_append.2 ⟨printable_compactChars item, ?_⟩
      exact List.forall_mem_cons.2 ⟨by decide, List.forall_mem_cons.2 ⟨by decide, hrest⟩⟩
    · exact List.cons_ne_nil second rest

theorem printable_compactMembers : ∀ fields : List (Text × Json),
    ∀ c ∈ compactMembers fields, IsPrintable c.toNat
  | [] => by
    rw [compactMembers]
    exact fun c hc => absurd hc List.not_mem_nil
  | [(name, value)] => by
    rw [compactMembers]
    refine List.forall_mem_append.2 ⟨printable_textChars name, ?_⟩
    refine List.forall_mem_cons.2 ⟨by decide, List.forall_mem_cons.2 ⟨by decide, ?_⟩⟩
    exact printable_compactChars value
  | (name, value) :: second :: rest => by
    have hrest := printable_compactMembers (second :: rest)
    rw [compactMembers]
    · simp only [List.append_assoc, List.cons_append]
      refine List.forall_mem_append.2 ⟨printable_textChars name, ?_⟩
      refine List.forall_mem_cons.2 ⟨by decide, List.forall_mem_cons.2 ⟨by decide, ?_⟩⟩
      refine List.forall_mem_append.2 ⟨printable_compactChars value, ?_⟩
      exact List.forall_mem_cons.2 ⟨by decide, List.forall_mem_cons.2 ⟨by decide, hrest⟩⟩
    · exact List.cons_ne_nil second rest

end

/-- **A document on one line is printable ASCII**, whatever it holds: no line ends inside it. -/
theorem printable_compact (j : Json) : ∀ c ∈ j.compact.toList, IsPrintable c.toNat := by
  rw [compact, String.toList_ofList]
  exact printable_compactChars j

end OpenerPolicy.Json
