/-
  File:      OpenerPolicy/Proofs/Json/Integers.lean
  Subject:   INTEGERS OF A DOCUMENT READ BACK.

  An integer is written in decimal digits without leading zeros, and reads back if it has no more
  digits than are read and what follows cannot be part of a number.

  * `digits`, `digitsValue_digits`, `integerPart?_digits` -- the digits of a natural number, their
    value, and where they end;
  * `Ends` -- what follows no longer belongs to a number;
  * **`scanNumber_intChars`** -- a whole integer; `scanWord_intChars` -- it is no word;
  * `printable_intChars` -- what is written is printable ASCII.
-/
import OpenerPolicy.Proofs.Json.Strings

namespace OpenerPolicy.Json

open OpenerPolicy.Text OpenerPolicy.Number

/-! ## 1. Digits -/

/-- The code points of the digits of a natural number. -/
def digits (n : Nat) : List Nat := (digitChars n).map Char.toNat

theorem isDigit_of_mem_digits {n c : Nat} (h : c ∈ digits n) : isDigit c = true := by
  obtain ⟨d, hd, rfl⟩ := List.mem_map.1 h
  have hdigit : d.isDigit = true := Nat.isDigit_of_mem_toDigits (by decide) (by decide) hd
  simp only [Char.isDigit, Bool.and_eq_true, decide_eq_true_eq] at hdigit
  exact Bool.and_eq_true_iff.2 ⟨decide_eq_true hdigit.1, decide_eq_true hdigit.2⟩

/-- **The value of the digits of a number** is the number. -/
theorem digitsValue_digits (n : Nat) : digitsValue (digits n) = n := by
  rw [digitsValue, digits, List.foldl_map]
  exact Nat.ofDigitChars_eq_foldl.symm.trans Nat.ofDigitChars_ten_toDigits

/-- Only zero is written with a zero first. -/
theorem digits_cases (n : Nat) :
    digits n = [Sign.zero] ∨ ∃ c more, digits n = c :: more ∧ c ≠ Sign.zero := by
  induction n using Nat.strongRecOn with
  | ind n ih =>
    by_cases hsmall : n < 10
    · have hone : digits n = [48 + n] := by
        rw [digits, digitChars, Nat.toDigits_of_lt_base hsmall]
        exact congrArg (fun c => [c]) (Nat.toNat_digitChar_of_lt_ten hsmall)
      by_cases hzero : n = 0
      · subst hzero
        exact Or.inl hone
      · exact Or.inr ⟨48 + n, [], hone, by show 48 + n ≠ 48; omega⟩
    · have hlast : digits n = digits (n / 10) ++ [(n % 10).digitChar.toNat] := by
        rw [digits, digitChars, Nat.toDigits_eq_if (by decide), if_neg hsmall, List.map_append]
        rfl
      rcases ih (n / 10) (by omega) with hzero | ⟨c, more, hc, hne⟩
      · -- the digits before the last one are not those of zero
        have hvalue := digitsValue_digits (n / 10)
        rw [hzero] at hvalue
        have : (0 : Nat) = n / 10 := hvalue
        omega
      · exact Or.inr ⟨c, more ++ [(n % 10).digitChar.toNat], by rw [hlast, hc]; rfl, hne⟩

/-! ## 2. Where a number ends -/

/-- **What follows does not belong to a number**: no digit, no point and no exponent. -/
def Ends : List Nat → Prop
  | [] => True
  | c :: _ => isDigit c = false ∧ c ≠ Sign.point ∧ c ≠ 'e'.toNat ∧ c ≠ 'E'.toNat

section Ended

variable {rest : List Nat}

theorem takeWhile_digits (h : Ends rest) {l : List Nat} (hl : ∀ c ∈ l, isDigit c = true) :
    (l ++ rest).takeWhile isDigit = l ∧ (l ++ rest).dropWhile isDigit = rest := by
  have hstop : rest.takeWhile isDigit = [] ∧ rest.dropWhile isDigit = rest := by
    cases rest with
    | nil => exact ⟨rfl, rfl⟩
    | cons c more =>
      rw [List.takeWhile_cons, List.dropWhile_cons, h.1]
      exact ⟨rfl, rfl⟩
  rw [List.takeWhile_append_of_pos hl, List.dropWhile_append_of_pos hl, hstop.1, hstop.2,
    List.append_nil]
  exact ⟨rfl, rfl⟩

/-- **The digits of a number are read to their end**, and no further. -/
theorem integerPart?_digits (h : Ends rest) (n : Nat) :
    integerPart? (digits n ++ rest) = some (digits n, rest) := by
  rcases digits_cases n with hzero | ⟨c, more, hc, hne⟩
  · rw [hzero]
    rfl
  · have hmem : ∀ d ∈ c :: more, isDigit d = true := fun d hd => isDigit_of_mem_digits (hc ▸ hd)
    have hmore := takeWhile_digits h fun d hd => hmem d (List.mem_cons_of_mem c hd)
    rw [hc, List.cons_append, integerPart?, if_pos (hmem c List.mem_cons_self), hmore.1, hmore.2]
    exact hne

theorem fractionPart_of_ends (h : Ends rest) : fractionPart rest = ([], rest) := by
  cases rest with
  | nil => rfl
  | cons c more =>
    rw [fractionPart]
    exact fun _ hc => h.2.1 (List.cons.inj hc).1

theorem exponentPart_of_ends (h : Ends rest) : exponentPart rest = (none, rest) := by
  cases rest with
  | nil => rfl
  | cons c more =>
    obtain ⟨-, -, hlower, hupper⟩ := h
    simp only [exponentPart, hlower, hupper, decide_false, Bool.or_self, Bool.false_eq_true, if_false]

/-! ## 3. Whole integers -/

/-- A natural number starts with a digit. -/
theorem digits_eq_cons (n : Nat) : ∃ c more, digits n = c :: more ∧ isDigit c = true := by
  cases hd : digits n with
  | nil => exact absurd (List.map_eq_nil_iff.1 hd) Nat.toDigits_ne_nil
  | cons c more => exact ⟨c, more, rfl, isDigit_of_mem_digits (hd ▸ List.mem_cons_self)⟩

/-- Digits give a number, and so do digits after a minus sign. -/
theorem scanNumber_digits (h : Ends rest) {s : List Nat} {negative : Bool} {n : Nat}
    (hn : (digits n).length ≤ maxIntegerDigits)
    (hs : s = Sign.minus :: (digits n ++ rest) ∧ negative = true ∨
      s = digits n ++ rest ∧ negative = false) :
    scanNumber s = some (.ok (.int (if negative then -n else n), rest)) := by
  unfold scanNumber
  split
  next sign unsigned hsign =>
    have hparts : (sign, unsigned) = (negative, digits n ++ rest) := by
      rcases hs with ⟨rfl, rfl⟩ | ⟨rfl, rfl⟩
      · exact hsign.symm
      · obtain ⟨c, more, hc, hdigit⟩ := digits_eq_cons n
        rw [hc, List.cons_append] at hsign ⊢
        split at hsign
        · next hminus =>
          rw [(List.cons.inj hminus).1] at hdigit
          cases hdigit
        · exact hsign.symm
    obtain ⟨rfl, rfl⟩ := Prod.mk.inj hparts
    simp only [integerPart?_digits h, fractionPart_of_ends h, exponentPart_of_ends h,
      List.isEmpty_nil, Option.isNone_none, Bool.and_self, if_true, if_neg (Nat.not_lt.2 hn),
      digitsValue_digits]

/-- **An integer reads back**, if it has no more digits than are read. -/
theorem scanNumber_intChars (h : Ends rest) {n : Int}
    (hn : (digits n.natAbs).length ≤ maxIntegerDigits) :
    scanNumber ((intChars n).map Char.toNat ++ rest) = some (.ok (.int n, rest)) := by
  unfold intChars
  by_cases hneg : n < 0
  · rw [if_pos hneg, List.map_cons, List.cons_append]
    refine (scanNumber_digits h hn (Or.inl ⟨rfl, rfl⟩)).trans ?_
    rw [if_pos rfl, Int.ofNat_natAbs_of_nonpos (Int.le_of_lt hneg), Int.neg_neg]
  · rw [if_neg hneg]
    refine (scanNumber_digits h hn (Or.inr ⟨rfl, rfl⟩)).trans ?_
    rw [if_neg Bool.false_ne_true, Int.natAbs_of_nonneg (Int.not_lt.1 hneg)]

end Ended

/-! ## 4. Integers are no words -/

/-- No digit is among the first two characters of a word. -/
theorem word_eq_cons {word : List Nat} (h : word ∈ words.map Prod.fst) :
    ∃ first second more, word = first :: second :: more ∧
      isDigit first = false ∧ isDigit second = false := by
  have hwords : ∀ w ∈ words.map Prod.fst,
      2 ≤ w.length ∧ isDigit w[0]! = false ∧ isDigit w[1]! = false := by decide
  obtain ⟨hlength, hfirst, hsecond⟩ := hwords word h
  match word, hlength with
  | first :: second :: more, _ => exact ⟨first, second, more, rfl, hfirst, hsecond⟩

theorem isPrefixOf_word {word : List Nat} (hword : word ∈ words.map Prod.fst) {c : Nat}
    (hc : isDigit c = true) (rest : List Nat) :
    word.isPrefixOf (c :: rest) = false ∧ word.isPrefixOf (Sign.minus :: c :: rest) = false := by
  obtain ⟨first, second, more, rfl, hfirst, hsecond⟩ := word_eq_cons hword
  have hne : ∀ d, isDigit d = false → (d == c) = false := by
    intro d hd
    rw [beq_eq_false_iff_ne]
    rintro rfl
    rw [hc] at hd
    cases hd
  constructor
  · rw [List.isPrefixOf, hne first hfirst, Bool.false_and]
  · rw [List.isPrefixOf, List.isPrefixOf, hne second hsecond, Bool.false_and, Bool.and_false]

/-- **An integer is no word.** -/
theorem scanWord_intChars (n : Int) (rest : List Nat) :
    scanWord ((intChars n).map Char.toNat ++ rest) = none := by
  obtain ⟨c, more, hc, hdigit⟩ := digits_eq_cons n.natAbs
  have hnone : ∀ w ∈ words, w.1.isPrefixOf ((intChars n).map Char.toNat ++ rest) = false := by
    intro w hw
    obtain ⟨hplain, hsigned⟩ := isPrefixOf_word (List.mem_map_of_mem hw) hdigit (more ++ rest)
    unfold intChars
    by_cases hneg : n < 0
    · rw [if_pos hneg, List.map_cons, ← digits, hc]
      exact hsigned
    · rw [if_neg hneg, ← digits, hc]
      exact hplain
  rw [scanWord, List.findSome?_eq_none_iff]
  intro w hw
  show (if w.1.isPrefixOf ((intChars n).map Char.toNat ++ rest) then _ else none) = none
  rw [hnone w hw]
  rfl

/-- An integer starts with a digit or a minus sign. -/
theorem intChars_eq_cons (n : Int) : ∃ c more, (intChars n).map Char.toNat = c :: more ∧
    (isDigit c = true ∨ c = Sign.minus) := by
  unfold intChars
  by_cases hneg : n < 0
  · rw [if_pos hneg]
    exact ⟨_, _, rfl, Or.inr rfl⟩
  · obtain ⟨c, more, hc, hdigit⟩ := digits_eq_cons n.natAbs
    rw [if_neg hneg]
    exact ⟨c, more, hc, Or.inl hdigit⟩

theorem printable_digitChars (n : Nat) : ∀ c ∈ digitChars n, IsPrintable c.toNat := by
  intro c hc
  have hdigit := isDigit_of_mem_digits (List.mem_map_of_mem hc)
  obtain ⟨hlow, hhigh⟩ := Bool.and_eq_true_iff.1 hdigit
  exact ⟨Nat.le_trans (by decide) (of_decide_eq_true hlow),
    Nat.lt_of_le_of_lt (of_decide_eq_true hhigh) (by decide)⟩

/-- An integer is written in printable ASCII. -/
theorem printable_intChars (n : Int) : ∀ c ∈ intChars n, IsPrintable c.toNat := by
  unfold intChars
  split
  · exact List.forall_mem_cons.2 ⟨by decide, printable_digitChars n.natAbs⟩
  · exact printable_digitChars n.natAbs

end OpenerPolicy.Json
