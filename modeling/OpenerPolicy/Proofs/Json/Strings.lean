/-
  File:      OpenerPolicy/Proofs/Json/Strings.lean
  Subject:   STRINGS OF A DOCUMENT READ BACK.

  A string is written with escapes for everything but printable ASCII, a character beyond the first
  65536 code points as the escapes of a pair. The reader puts pairs together again, and only those:
  characters are no surrogates, so two of them that follow each other are never taken for a pair.

  * `hex4?_hexPadded` -- four digits and their value;
  * `escapePoint_cases` -- the four ways in which a code point is written;
  * `scanString_unitEscape` -- one escape by number;
  * `scanString_escapePoint` -- one character, however it is written;
  * **`scanText_inner`** -- a whole string, whatever follows it;
  * **`printable_inner`** -- what is written is printable ASCII.
-/
import OpenerPolicy.Json.Reader
import OpenerPolicy.Json.Writer

namespace OpenerPolicy.Json

open OpenerPolicy.Text

/-! ## 1. Digits -/

theorem hexValue?_hexDigit {n : Nat} (h : n < 16) : hexValue? (hexDigit n) = some n := by
  have hall : ∀ m < 16, hexValue? (hexDigit m) = some m := by decide
  exact hall n h

/-- The four digits of a unit, from the highest on. -/
theorem hexPadded_four (u : Nat) :
    hexPadded 4 u = [hexDigit (u / 4096 % 16), hexDigit (u / 256 % 16), hexDigit (u / 16 % 16),
      hexDigit (u % 16)] := by
  simp only [hexPadded, Nat.div_div_eq_div_mul, List.nil_append, List.cons_append]

/-- **Four digits have the value they were written for.** -/
theorem hex4?_hexPadded {u : Nat} (h : u < 0x10000) :
    hex4? (hexDigit (u / 4096 % 16)).toNat (hexDigit (u / 256 % 16)).toNat
      (hexDigit (u / 16 % 16)).toNat (hexDigit (u % 16)).toNat = some u := by
  have hdigit : ∀ n, hexValue? (Char.ofNat (hexDigit (n % 16)).toNat) = some (n % 16) := by
    intro n
    rw [Char.ofNat_toNat]
    exact hexValue?_hexDigit (Nat.mod_lt n (by decide))
  have hvalue : ((u / 4096 % 16 * 16 + u / 256 % 16) * 16 + u / 16 % 16) * 16 + u % 16 = u := by
    omega
  rw [hex4?, hdigit, hdigit, hdigit, hdigit]
  exact congrArg some hvalue

/-! ## 2. One character -/

/-- Printable ASCII. -/
def IsPrintable (c : Nat) : Prop := 0x20 ≤ c ∧ c < 0x7F

instance (c : Nat) : Decidable (IsPrintable c) := inferInstanceAs (Decidable (_ ∧ _))

/-- **How a code point is written**: by a letter, as it is, by its number, or as a pair. -/
theorem escapePoint_cases (c : Nat) :
    (∃ e, escapePoint c = ['\\', e] ∧ IsPrintable e.toNat ∧ simpleEscape? e.toNat = some c) ∨
    (escapePoint c = [Char.ofNat c] ∧ c ≠ Sign.quote ∧ c ≠ Sign.backslash ∧ IsPrintable c) ∨
    (escapePoint c = unitEscape c ∧ c < 0x10000) ∨
    (escapePoint c = unitEscape (0xD800 + (c - 0x10000) / 0x400)
        ++ unitEscape (0xDC00 + (c - 0x10000) % 0x400) ∧ 0x10000 ≤ c) := by
  unfold escapePoint
  by_cases hquote : c = '"'.toNat
  · rw [if_pos hquote, hquote]
    exact Or.inl ⟨_, rfl, by decide, rfl⟩
  by_cases hbackslash : c = '\\'.toNat
  · rw [if_neg hquote, if_pos hbackslash, hbackslash]
    exact Or.inl ⟨_, rfl, by decide, rfl⟩
  rw [if_neg hquote, if_neg hbackslash]
  iterate 5
    split
    · next hc =>
      rw [hc]
      exact Or.inl ⟨_, rfl, by decide, rfl⟩
  split
  · next hplain => exact Or.inr (Or.inl ⟨rfl, hquote, hbackslash, hplain⟩)
  split
  · next hsmall => exact Or.inr (Or.inr (Or.inl ⟨rfl, hsmall⟩))
  · next hlarge => exact Or.inr (Or.inr (Or.inr ⟨rfl, Nat.not_lt.1 hlarge⟩))

section Characters

variable {opening : Nat} {tail points after : List Nat}

/-- Where a string goes on, something is left to be read. -/
theorem isEmpty_of_scanString (h : scanString opening tail = .ok (points, after)) :
    tail.isEmpty = false := by
  cases tail with
  | nil => cases h
  | cons c rest => rfl

/-- **An escape by number** gives its unit, which may be put together with what follows. -/
theorem scanString_unitEscape {u : Nat} (hu : u < 0x10000)
    (h : scanString opening tail = .ok (points, after)) :
    scanString opening ((unitEscape u).map Char.toNat ++ tail)
      = .ok (attach u tail points, after) := by
  rw [unitEscape, hexPadded_four]
  show scanString opening (Sign.backslash :: Sign.letterU :: (hexDigit (u / 4096 % 16)).toNat ::
    (hexDigit (u / 256 % 16)).toNat :: (hexDigit (u / 16 % 16)).toNat ::
    (hexDigit (u % 16)).toNat :: tail) = _
  rw [scanString, isEmpty_of_scanString h, if_neg Bool.false_ne_true, hex4?_hexPadded hu, h]
  rfl

theorem isHighSurrogate_eq_false {u : Nat} (h : u < 0xD800 ∨ 0xDC00 ≤ u) :
    isHighSurrogate u = false := by
  rw [isHighSurrogate, Bool.and_eq_false_iff, decide_eq_false_iff_not, decide_eq_false_iff_not]
  omega

/-- A unit that is no first half of a pair stands for itself. -/
theorem attach_of_not_high {u : Nat} (h : isHighSurrogate u = false) :
    attach u tail points = u :: points := by
  cases points with
  | nil => rfl
  | cons low more =>
    rw [attach, h, Bool.and_false, Bool.false_and]
    rfl

/-- The halves of a character beyond the first 65536 code points. -/
theorem joinSurrogates_halves {c : Nat} (h : 0x10000 ≤ c) :
    joinSurrogates (0xD800 + (c - 0x10000) / 0x400) (0xDC00 + (c - 0x10000) % 0x400) = c := by
  unfold joinSurrogates
  omega

theorem toNat_range (c : Char) :
    c.toNat < 0xD800 ∨ (0xDFFF < c.toNat ∧ c.toNat < 0x110000) := c.valid

/-- A first half finds the second one, where that comes from an escape too. -/
theorem attach_pair {high low : Nat} (hhigh : 0xD800 ≤ high) (hhigh' : high < 0xDC00)
    (hlow : 0xDC00 ≤ low) (hlow' : low < 0xE000) :
    attach high ((unitEscape low).map Char.toNat ++ tail) (low :: points)
      = joinSurrogates high low :: points := by
  have hpair : (isHighSurrogate high && isLowSurrogate low) = true := by
    simp only [isHighSurrogate, isLowSurrogate, Bool.and_eq_true, decide_eq_true_eq]
    exact ⟨⟨hhigh, hhigh'⟩, hlow, hlow'⟩
  have hstarts : startsNumbered ((unitEscape low).map Char.toNat ++ tail) = true := rfl
  rw [attach, hstarts, Bool.true_and, if_pos hpair]

/-- A character that is written by a letter. -/
theorem scanString_simple {e c : Nat} (he : simpleEscape? e = some c)
    (h : scanString opening tail = .ok (points, after)) :
    scanString opening (Sign.backslash :: e :: tail) = .ok (c :: points, after) := by
  have hletter : e ≠ Sign.letterU := by
    rintro rfl
    cases he
  rw [scanString, he, h]
  · rfl
  · exact hletter

/-- A printable character that is written as it is. -/
theorem scanString_plain {c : Nat} (hquote : c ≠ Sign.quote) (hbackslash : c ≠ Sign.backslash)
    (hplain : 0x20 ≤ c) (h : scanString opening tail = .ok (points, after)) :
    scanString opening (c :: tail) = .ok (c :: points, after) := by
  rw [scanString, if_neg (Nat.not_lt.2 hplain), h]
  · rfl
  · exact hquote
  · exact fun _ hc _ => hbackslash hc
  · exact fun hc _ => hbackslash hc
  · exact fun _ _ hc _ => hbackslash hc

/-- **A character reads back**, however it is written. -/
theorem scanString_escapePoint (c : Char) (h : scanString opening tail = .ok (points, after)) :
    scanString opening ((escapePoint c.toNat).map Char.toNat ++ tail)
      = .ok (c.toNat :: points, after) := by
  have hrange := toNat_range c
  rcases escapePoint_cases c.toNat with ⟨e, heq, -, he⟩ | ⟨heq, hquote, hbackslash, hplain⟩ |
    ⟨heq, hsmall⟩ | ⟨heq, hlarge⟩
  · rw [heq]
    exact scanString_simple he h
  · rw [heq, Char.ofNat_toNat]
    exact scanString_plain hquote hbackslash hplain.1 h
  · have hlone : isHighSurrogate c.toNat = false := isHighSurrogate_eq_false (by omega)
    rw [heq, scanString_unitEscape hsmall h, attach_of_not_high hlone]
  · -- the second half stays alone, and the first one finds it there
    have hlow : 0xDC00 + (c.toNat - 0x10000) % 0x400 < 0x10000 := by omega
    have hhigh : 0xD800 + (c.toNat - 0x10000) / 0x400 < 0xDC00 := by omega
    have hlone : isHighSurrogate (0xDC00 + (c.toNat - 0x10000) % 0x400) = false :=
      isHighSurrogate_eq_false (by omega)
    have hsecond := scanString_unitEscape hlow h
    rw [attach_of_not_high hlone] at hsecond
    rw [heq, List.map_append, List.append_assoc,
      scanString_unitEscape (Nat.lt_trans hhigh (by decide)) hsecond,
      attach_pair (by omega) hhigh (by omega) (by omega), joinSurrogates_halves hlarge]

end Characters

/-! ## 3. Whole strings -/

/-- The code points of a string between its quotes. -/
def inner (s : String) : List Nat := ((points s).flatMap escapePoint).map Char.toNat

/-- A written string is its quotes and what stands between them. -/
theorem textChars_whole (s : String) :
    (textChars (.whole s)).map Char.toNat = Sign.quote :: (inner s ++ [Sign.quote]) := by
  rw [textChars, List.map_append]
  rfl

theorem scanString_inner (opening : Nat) (s : String) (rest : List Nat) :
    scanString opening (inner s ++ Sign.quote :: rest) = .ok (points s, rest) := by
  have hchars : ∀ l : List Char, scanString opening
      (((l.map Char.toNat).flatMap escapePoint).map Char.toNat ++ Sign.quote :: rest)
        = .ok (l.map Char.toNat, rest) := by
    intro l
    induction l with
    | nil => rfl
    | cons c more ih =>
      rw [List.map_cons, List.flatMap_cons, List.map_append, List.append_assoc]
      exact scanString_escapePoint c ih
  exact hchars s.toList

/-- Text is no torn string. -/
theorem ofPoints_points (s : String) : Text.ofPoints (points s) = .whole s := by
  have hwhole : (points s).any isSurrogate = false := by
    rw [List.any_eq_false]
    intro n hn
    obtain ⟨c, -, rfl⟩ := List.mem_map.1 hn
    have hrange := toNat_range c
    simp only [isSurrogate, Bool.and_eq_true, decide_eq_true_eq]
    omega
  have hchars : (points s).map Char.ofNat = s.toList := by
    rw [points, List.map_map]
    exact List.map_id'' Char.ofNat_toNat _
  rw [Text.ofPoints, hwhole, hchars, String.ofList_toList]
  rfl

/-- **A string reads back**, whatever follows it. -/
theorem scanText_inner (opening : Nat) (s : String) (rest : List Nat) :
    scanText opening (inner s ++ Sign.quote :: rest) = .ok (.whole s, rest) := by
  rw [scanText, scanString_inner]
  exact congrArg (fun t => Except.ok (t, rest)) (ofPoints_points s)

/-! ## 4. What is written -/

theorem printable_hexPadded (width n : Nat) : ∀ c ∈ hexPadded width n, IsPrintable c.toNat := by
  induction width generalizing n with
  | zero => exact fun c hc => absurd hc List.not_mem_nil
  | succ width ih =>
    intro c hc
    rcases List.mem_append.1 hc with hc | hc
    · exact ih (n / 16) c hc
    · have hdigits : ∀ m < 16, IsPrintable (hexDigit m).toNat := by decide
      obtain rfl := List.mem_singleton.1 hc
      exact hdigits (n % 16) (Nat.mod_lt n (by decide))

theorem printable_unitEscape (u : Nat) : ∀ c ∈ unitEscape u, IsPrintable c.toNat := by
  intro c hc
  rcases List.mem_cons.1 hc with rfl | hc
  · decide
  rcases List.mem_cons.1 hc with rfl | hc
  · decide
  · exact printable_hexPadded 4 u c hc

/-- **Every character of a string is written in printable ASCII.** -/
theorem printable_escapePoint (n : Nat) : ∀ c ∈ escapePoint n, IsPrintable c.toNat := by
  intro c hc
  rcases escapePoint_cases n with ⟨e, heq, he, -⟩ | ⟨heq, -, -, hplain⟩ | ⟨heq, -⟩ | ⟨heq, -⟩
  · rw [heq] at hc
    rcases List.mem_cons.1 hc with rfl | hc
    · decide
    · obtain rfl := List.mem_singleton.1 hc
      exact he
  · rw [heq] at hc
    obtain rfl := List.mem_singleton.1 hc
    have hvalid : n.isValidChar := Or.inl (Nat.lt_trans hplain.2 (by decide))
    rw [Char.ofNat, dif_pos hvalid]
    exact hplain
  · rw [heq] at hc
    exact printable_unitEscape n c hc
  · rw [heq] at hc
    rcases List.mem_append.1 hc with hc | hc
    · exact printable_unitEscape _ c hc
    · exact printable_unitEscape _ c hc

/-- **A string is written in printable ASCII**, whatever it holds. -/
theorem printable_inner (s : String) : ∀ c ∈ inner s, IsPrintable c := by
  intro c hc
  obtain ⟨d, hd, rfl⟩ := List.mem_map.1 hc
  obtain ⟨n, -, hd⟩ := List.mem_flatMap.1 hd
  exact printable_escapePoint n d hd

end OpenerPolicy.Json
