/-
  File:      OpenerPolicy/Proofs/Text/Utf8.lean
  Subject:   BYTES ARE READ AS UTF-8 EXACTLY IF THEY ARE THE UTF-8 OF A TEXT.

  Bytes are read one at a time, with the intervals that the next ones must lie in. The sequences that
  get through are the well-formed ones, and those are the bytes of the characters: one sequence for
  each character, so that nothing is read in two ways.

  * `Sequence` -- the well-formed sequences, each with the number of its character;
  * `Sequence.decodeFrom_append`, `exists_sequence_of_decodeFrom` -- they are what is read;
  * `Sequence.encode`, `exists_sequence` -- they are what characters are written as;
  * **`decode_eq_ok_iff`** -- what is read is the text whose bytes they are; `decode_utf8_eq_ok_iff`,
    `decode_utf8_eq_error` -- the same for code points, and the faults.
-/
import OpenerPolicy.Text.EncodingName

namespace OpenerPolicy.Text.Utf8

/-! ## 1. Well-formed sequences -/

/-- A byte in an interval. -/
def Within (interval : Nat × Nat) (b : UInt8) : Prop :=
  interval.1 ≤ b.toNat ∧ b.toNat ≤ interval.2

/-- The interval of the second of three bytes. It is narrowed after the first byte of overlong forms
    and that of surrogates. -/
def secondOfThree (b : UInt8) : Nat × Nat :=
  (if b.toNat = 0xE0 then 0xA0 else 0x80, if b.toNat = 0xED then 0x9F else 0xBF)

/-- The interval of the second of four bytes, narrowed for overlong forms and numbers too large. -/
def secondOfFour (b : UInt8) : Nat × Nat :=
  (if b.toNat = 0xF0 then 0x90 else 0x80, if b.toNat = 0xF4 then 0x8F else 0xBF)

/-- **The well-formed sequences of bytes**, each with the number of its character. -/
inductive Sequence : List UInt8 → Nat → Prop
  | one {a : UInt8} (ha : a.toNat < 0x80) : Sequence [a] a.toNat
  | two {a b : UInt8} (ha : Within (0xC2, 0xDF) a) (hb : Within tail b) :
    Sequence [a, b] ((a.toNat - 0xC0) * 64 + b.toNat % 64)
  | three {a b c : UInt8} (ha : Within (0xE0, 0xEF) a) (hb : Within (secondOfThree a) b)
    (hc : Within tail c) :
    Sequence [a, b, c] (((a.toNat - 0xE0) * 64 + b.toNat % 64) * 64 + c.toNat % 64)
  | four {a b c d : UInt8} (ha : Within (0xF0, 0xF4) a) (hb : Within (secondOfFour a) b)
    (hc : Within tail c) (hd : Within tail d) :
    Sequence [a, b, c, d]
      ((((a.toNat - 0xF0) * 64 + b.toNat % 64) * 64 + c.toNat % 64) * 64 + d.toNat % 64)

/-! ## 2. What is read -/

section FirstByte

variable {a : UInt8}

theorem not_lt_of_within {low high : Nat} (hlow : 0x80 ≤ low) (h : Within (low, high) a) :
    ¬ a.toNat < 0x80 :=
  Nat.not_lt.2 (Nat.le_trans hlow h.1)

theorem lead?_two (h : Within (0xC2, 0xDF) a) : lead? a.toNat = some (a.toNat - 0xC0, tail, []) :=
  if_pos h

theorem lead?_three (h : Within (0xE0, 0xEF) a) :
    lead? a.toNat = some (a.toNat - 0xE0, secondOfThree a, [tail]) := by
  obtain ⟨hlow, hhigh⟩ := h
  have hwide : ¬ (0xC2 ≤ a.toNat ∧ a.toNat ≤ 0xDF) := by omega
  rw [lead?, if_neg hwide, secondOfThree]
  by_cases hlong : a.toNat = 0xE0
  · simp [hlong]
  by_cases hsurrogate : a.toNat = 0xED
  · simp [hsurrogate]
  · rw [if_neg hlong, if_neg hsurrogate, if_neg hlong, if_neg hsurrogate, if_pos (by omega), tail]

theorem lead?_four (h : Within (0xF0, 0xF4) a) :
    lead? a.toNat = some (a.toNat - 0xF0, secondOfFour a, [tail, tail]) := by
  obtain ⟨hlow, hhigh⟩ := h
  have hwide : ¬ (0xC2 ≤ a.toNat ∧ a.toNat ≤ 0xDF) := by omega
  have hthree : ¬ (0xE1 ≤ a.toNat ∧ a.toNat ≤ 0xEF) := by omega
  rw [lead?, if_neg hwide, if_neg (by omega), if_neg (by omega), if_neg hthree, secondOfFour]
  by_cases hlong : a.toNat = 0xF0
  · simp [hlong]
  by_cases hlarge : a.toNat = 0xF4
  · simp [hlarge]
  · rw [if_neg hlong, if_neg hlarge, if_neg hlong, if_neg hlarge, if_pos (by omega), tail]

/-- No other byte starts a sequence of several. -/
theorem within_of_lead? {promise : Nat × (Nat × Nat) × List (Nat × Nat)}
    (h : lead? a.toNat = some promise) :
    Within (0xC2, 0xDF) a ∨ Within (0xE0, 0xEF) a ∨ Within (0xF0, 0xF4) a := by
  refine Classical.byContradiction fun hnone => ?_
  simp only [Within, not_or] at hnone
  obtain ⟨htwo, hthree, hfour⟩ := hnone
  rw [lead?, if_neg htwo, if_neg (by omega), if_neg (by omega), if_neg (by omega), if_neg (by omega),
    if_neg (by omega), if_neg (by omega)] at h
  cases h

end FirstByte

/-! ### Byte by byte -/

section Steps

variable {pos : Nat} {a : UInt8} {rest : List UInt8} {cs : List Char} {p : Pending}

theorem decodeFrom_ascii (h : a.toNat < 0x80) :
    decodeFrom pos none (a :: rest)
      = (Char.ofNat a.toNat :: ·) <$> decodeFrom (pos + 1) none rest := by
  rw [decodeFrom, if_pos h]

/-- A first byte leaves the bytes it promises pending. -/
theorem decodeFrom_first {value : Nat} {next : Nat × Nat} {more : List (Nat × Nat)}
    (h : ¬ a.toNat < 0x80) (hlead : lead? a.toNat = some (value, next, more)) :
    decodeFrom pos none (a :: rest) = decodeFrom (pos + 1) (some ⟨pos, 1, a, value, next, more⟩) rest := by
  rw [decodeFrom, if_neg h, hlead]

theorem decodeFrom_next {next : Nat × Nat} {more : List (Nat × Nat)} (hmore : p.more = next :: more)
    (h : Within p.next a) :
    decodeFrom pos (some p) (a :: rest) = decodeFrom (pos + 1)
      (some ⟨p.start, p.count + 1, p.byte, p.value * 64 + a.toNat % 64, next, more⟩) rest := by
  rw [decodeFrom]
  refine (if_pos h).trans ?_
  rw [hmore]

theorem decodeFrom_last (hmore : p.more = []) (h : Within p.next a) :
    decodeFrom pos (some p) (a :: rest)
      = (Char.ofNat (p.value * 64 + a.toNat % 64) :: ·) <$> decodeFrom (pos + 1) none rest := by
  rw [decodeFrom]
  refine (if_pos h).trans ?_
  rw [hmore]

/-- Only a byte in the interval gets through while bytes are pending. -/
theorem exists_of_decodeFrom_pending {bytes : List UInt8} (h : decodeFrom pos (some p) bytes = .ok cs) :
    ∃ a rest, bytes = a :: rest ∧ Within p.next a := by
  cases bytes with
  | nil => cases h
  | cons a rest =>
    refine ⟨a, rest, rfl, ?_⟩
    rw [decodeFrom] at h
    split at h
    · next hwithin => exact hwithin
    · cases h

theorem map_cons_eq_ok {c : Char} {outcome : Except DecodeFault (List Char)}
    (h : (c :: ·) <$> outcome = .ok cs) : ∃ cs', outcome = .ok cs' ∧ cs = c :: cs' := by
  cases outcome with
  | error f => cases h
  | ok cs' => exact ⟨cs', rfl, (Except.ok.inj h).symm⟩

end Steps

/-- **A well-formed sequence is read as its character.** -/
theorem Sequence.decodeFrom_append {l : List UInt8} {n : Nat} (h : Sequence l n) (pos : Nat)
    (rest : List UInt8) :
    decodeFrom pos none (l ++ rest) = (Char.ofNat n :: ·) <$> decodeFrom (pos + l.length) none rest := by
  cases h with
  | one ha => exact decodeFrom_ascii ha
  | two ha hb =>
    refine (decodeFrom_first (not_lt_of_within (by decide) ha) (lead?_two ha)).trans ?_
    exact decodeFrom_last rfl hb
  | three ha hb hc =>
    refine (decodeFrom_first (not_lt_of_within (by decide) ha) (lead?_three ha)).trans ?_
    refine (decodeFrom_next rfl hb).trans ?_
    exact decodeFrom_last rfl hc
  | four ha hb hc hd =>
    refine (decodeFrom_first (not_lt_of_within (by decide) ha) (lead?_four ha)).trans ?_
    refine (decodeFrom_next rfl hb).trans ?_
    refine (decodeFrom_next rfl hc).trans ?_
    exact decodeFrom_last rfl hd

/-- **What is read starts with a well-formed sequence.** -/
theorem exists_sequence_of_decodeFrom {pos : Nat} {bytes : List UInt8} {cs : List Char}
    (h : decodeFrom pos none bytes = .ok cs) :
    bytes = [] ∧ cs = [] ∨ ∃ l n rest cs', Sequence l n ∧ bytes = l ++ rest ∧
      cs = Char.ofNat n :: cs' ∧ decodeFrom (pos + l.length) none rest = .ok cs' := by
  -- what is read after a sequence is known once the sequence is
  have hthen {l : List UInt8} {n : Nat} {rest : List UInt8} (hl : Sequence l n)
      (h : decodeFrom pos none (l ++ rest) = .ok cs) : ∃ l' n' rest' cs', Sequence l' n' ∧
        l ++ rest = l' ++ rest' ∧ cs = Char.ofNat n' :: cs' ∧
        decodeFrom (pos + l'.length) none rest' = .ok cs' := by
    rw [hl.decodeFrom_append] at h
    obtain ⟨cs', hrest, hcs⟩ := map_cons_eq_ok h
    exact ⟨l, n, rest, cs', hl, rfl, hcs, hrest⟩
  cases bytes with
  | nil => exact Or.inl ⟨rfl, (Except.ok.inj h).symm⟩
  | cons a rest =>
    refine Or.inr ?_
    by_cases hascii : a.toNat < 0x80
    · exact hthen (.one hascii) h
    have hfirst := h
    cases hlead : lead? a.toNat with
    | none =>
      rw [decodeFrom, if_neg hascii, hlead] at hfirst
      cases hfirst
    | some promise =>
      rcases within_of_lead? hlead with ha | ha | ha
      · rw [decodeFrom_first hascii (lead?_two ha)] at hfirst
        obtain ⟨b, rest, rfl, hb⟩ := exists_of_decodeFrom_pending hfirst
        exact hthen (.two ha hb) h
      · rw [decodeFrom_first hascii (lead?_three ha)] at hfirst
        obtain ⟨b, rest, rfl, hb⟩ := exists_of_decodeFrom_pending hfirst
        rw [decodeFrom_next rfl hb] at hfirst
        obtain ⟨c, rest, rfl, hc⟩ := exists_of_decodeFrom_pending hfirst
        exact hthen (.three ha hb hc) h
      · rw [decodeFrom_first hascii (lead?_four ha)] at hfirst
        obtain ⟨b, rest, rfl, hb⟩ := exists_of_decodeFrom_pending hfirst
        rw [decodeFrom_next rfl hb] at hfirst
        obtain ⟨c, rest, rfl, hc⟩ := exists_of_decodeFrom_pending hfirst
        rw [decodeFrom_next rfl hc] at hfirst
        obtain ⟨d, rest, rfl, hd⟩ := exists_of_decodeFrom_pending hfirst
        exact hthen (.four ha hb hc hd) h

/-! ## 3. What characters are written as -/

theorem ofNat_eq_of_toNat {n : Nat} {a : UInt8} (h : n = a.toNat) : UInt8.ofNat n = a := by
  rw [h, UInt8.ofNat_toNat]

/-- The number of a sequence is that of a character. -/
theorem Sequence.isValidChar {l : List UInt8} {n : Nat} (h : Sequence l n) : n.isValidChar := by
  cases h with
  | one ha => exact Or.inl (by omega)
  | two ha hb =>
    simp only [Within, tail] at ha hb
    exact Or.inl (by omega)
  | @three a b c ha hb hc =>
    simp only [Within, secondOfThree, tail] at ha hb hc
    show _ ∨ _
    split at hb <;> split at hb <;> omega
  | @four a b c d ha hb hc hd =>
    simp only [Within, secondOfFour, tail] at ha hb hc hd
    show _ ∨ _
    split at hb <;> split at hb <;> omega

/-- **A character is written as the sequence of its number.** -/
theorem Sequence.encode {l : List UInt8} {n : Nat} (h : Sequence l n) :
    String.utf8EncodeChar (Char.ofNat n) = l := by
  have hn : (Char.ofNat n).val.toNat = n := by
    rw [Char.ofNat, dif_pos h.isValidChar]
    rfl
  unfold String.utf8EncodeChar
  simp only [hn]
  cases h with
  | one ha => rw [if_pos (by omega), UInt8.ofNat_toNat]
  | two ha hb =>
    simp only [Within, tail] at ha hb
    rw [if_neg (by omega), if_pos (by omega)]
    simp only [List.cons.injEq, and_true]
    exact ⟨ofNat_eq_of_toNat (by omega), ofNat_eq_of_toNat (by omega)⟩
  | @three a b c ha hb hc =>
    have hb' : 0x80 ≤ b.toNat ∧ b.toNat ≤ 0xBF ∧ (a.toNat = 0xE0 → 0xA0 ≤ b.toNat) := by
      simp only [Within, secondOfThree] at hb
      split at hb <;> split at hb <;> omega
    simp only [Within, tail] at ha hc
    rw [if_neg (by omega), if_neg (by omega), if_pos (by omega)]
    simp only [List.cons.injEq, and_true]
    exact ⟨ofNat_eq_of_toNat (by omega), ofNat_eq_of_toNat (by omega), ofNat_eq_of_toNat (by omega)⟩
  | @four a b c d ha hb hc hd =>
    have hb' : 0x80 ≤ b.toNat ∧ b.toNat ≤ 0xBF ∧ (a.toNat = 0xF0 → 0x90 ≤ b.toNat) := by
      simp only [Within, secondOfFour] at hb
      split at hb <;> split at hb <;> omega
    simp only [Within, tail] at ha hc hd
    rw [if_neg (by omega), if_neg (by omega), if_neg (by omega)]
    simp only [List.cons.injEq, and_true]
    exact ⟨ofNat_eq_of_toNat (by omega), ofNat_eq_of_toNat (by omega), ofNat_eq_of_toNat (by omega),
      ofNat_eq_of_toNat (by omega)⟩

/-- **Every character has a well-formed sequence.** -/
theorem exists_sequence (c : Char) : ∃ l, Sequence l c.toNat := by
  have hvalid : c.toNat < 0xD800 ∨ 0xDFFF < c.toNat ∧ c.toNat < 0x110000 := c.valid
  generalize c.toNat = n at hvalid
  have hbyte (m : Nat) (h : m < 0x100) : ∃ a : UInt8, a.toNat = m :=
    ⟨UInt8.ofNat m, UInt8.toNat_ofNat_of_lt' h⟩
  by_cases hone : n < 0x80
  · obtain ⟨a, rfl⟩ := hbyte n (by omega)
    exact ⟨[a], .one hone⟩
  by_cases htwo : n < 0x800
  · obtain ⟨a, ha⟩ := hbyte (n / 64 + 0xC0) (by omega)
    obtain ⟨b, hb⟩ := hbyte (n % 64 + 0x80) (by omega)
    have hn : (a.toNat - 0xC0) * 64 + b.toNat % 64 = n := by omega
    rw [← hn]
    exact ⟨[a, b], .two (by rw [Within]; omega) (by rw [Within, tail]; omega)⟩
  obtain ⟨z, hz⟩ := hbyte (n % 64 + 0x80) (by omega)
  obtain ⟨y, hy⟩ := hbyte (n / 64 % 64 + 0x80) (by omega)
  have htail {m : Nat} {x : UInt8} (h : x.toNat = m % 64 + 0x80) : Within tail x := by
    rw [Within, tail]
    omega
  by_cases hthree : n < 0x10000
  · obtain ⟨a, ha⟩ := hbyte (n / 4096 + 0xE0) (by omega)
    have hn : ((a.toNat - 0xE0) * 64 + y.toNat % 64) * 64 + z.toNat % 64 = n := by omega
    have hsecond : Within (secondOfThree a) y := by
      simp only [Within, secondOfThree]
      split <;> split <;> omega
    rw [← hn]
    exact ⟨[a, y, z], .three (by rw [Within]; omega) hsecond (htail hz)⟩
  · obtain ⟨a, ha⟩ := hbyte (n / 262144 + 0xF0) (by omega)
    obtain ⟨b, hb⟩ := hbyte (n / 4096 % 64 + 0x80) (by omega)
    have hn : (((a.toNat - 0xF0) * 64 + b.toNat % 64) * 64 + y.toNat % 64) * 64 + z.toNat % 64 = n := by
      omega
    have hsecond : Within (secondOfFour a) b := by
      simp only [Within, secondOfFour]
      split <;> split <;> omega
    rw [← hn]
    exact ⟨[a, b, y, z], .four (by rw [Within]; omega) hsecond (htail hy) (htail hz)⟩

/-! ## 4. Texts and their bytes -/

theorem decodeFrom_flatMap (cs : List Char) (pos : Nat) :
    decodeFrom pos none (cs.flatMap String.utf8EncodeChar) = .ok cs := by
  induction cs generalizing pos with
  | nil => rfl
  | cons c rest ih =>
    obtain ⟨l, hl⟩ := exists_sequence c
    have hc : String.utf8EncodeChar c = l := by
      rw [← hl.encode, Char.ofNat_toNat]
    rw [List.flatMap_cons, hc, hl.decodeFrom_append, ih, Char.ofNat_toNat]
    rfl

theorem eq_flatMap_of_decodeFrom {cs : List Char} {bytes : List UInt8} {pos : Nat}
    (h : decodeFrom pos none bytes = .ok cs) : bytes = cs.flatMap String.utf8EncodeChar := by
  induction cs generalizing bytes pos with
  | nil =>
    rcases exists_sequence_of_decodeFrom h with ⟨rfl, -⟩ | ⟨l, n, rest, cs', -, -, hcs, -⟩
    · rfl
    · cases hcs
  | cons c rest ih =>
    rcases exists_sequence_of_decodeFrom h with ⟨-, hcs⟩ | ⟨l, n, bytes', cs', hl, rfl, hcs, hrest⟩
    · cases hcs
    · obtain ⟨rfl, rfl⟩ := List.cons.inj hcs
      rw [List.flatMap_cons, hl.encode, ← ih hrest]

/-- **Bytes are read as a text exactly if they are its UTF-8.** -/
theorem decode_eq_ok_iff (bytes : List UInt8) (cs : List Char) :
    decode bytes = .ok cs ↔ bytes = utf8Bytes (String.ofList cs) := by
  rw [utf8Bytes, String.toList_ofList]
  constructor
  · exact eq_flatMap_of_decodeFrom
  · rintro rfl
    exact decodeFrom_flatMap cs 0

end OpenerPolicy.Text.Utf8

namespace OpenerPolicy.Text

/-- The code points of bytes in UTF-8 are those of the text whose UTF-8 they are. -/
theorem decode_utf8_eq_ok_iff (bytes : List UInt8) (codes : List Nat) :
    Encoding.utf8.decode bytes = .ok codes ↔ ∃ text, bytes = utf8Bytes text ∧ codes = points text := by
  have hdecode := Utf8.decode_eq_ok_iff bytes
  rw [Encoding.decode]
  constructor
  · intro h
    cases hcs : Utf8.decode bytes with
    | error f =>
      rw [hcs] at h
      cases h
    | ok cs =>
      rw [hcs] at h
      refine ⟨String.ofList cs, (hdecode cs).1 hcs, ?_⟩
      rw [points, String.toList_ofList]
      exact (Except.ok.inj h).symm
  · rintro ⟨text, hbytes, rfl⟩
    have hcs : Utf8.decode bytes = .ok text.toList := by
      rw [hdecode, String.ofList_toList, hbytes]
    rw [hcs]
    rfl

/-- A fault in UTF-8 is one of the bytes. -/
theorem decode_utf8_eq_error {bytes : List UInt8} {f : TextFault}
    (h : Encoding.utf8.decode bytes = .error f) : ∃ f', f = .malformed f' := by
  rw [Encoding.decode] at h
  cases hcs : Utf8.decode bytes with
  | ok cs =>
    rw [hcs] at h
    cases h
  | error f' =>
    rw [hcs] at h
    exact ⟨f', (Except.error.inj h).symm⟩

end OpenerPolicy.Text
