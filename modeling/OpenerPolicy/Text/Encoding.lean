/-
  File:      OpenerPolicy/Text/Encoding.lean
  Subject:   BYTES AND TEXT: UTF-8, ASCII AND LATIN-1.

  A byte sequence that is no text under an encoding is refused with the place and the kind of the
  fault.

  * `Utf8.decodeFrom` -- UTF-8 one byte at a time; `Pending` is a character of which some bytes
    are still to come, each with the interval it must lie in;
  * `decodeAscii` -- ASCII;
  * `unifyLineEnds` -- every end of line as a single line feed;
  * `Latin1.encodable` -- whether text fits into the first 256 code points, or the first run of
    characters beyond (`EncodeFault`);
  * `utf8Bytes` -- the bytes of text.
-/
import OpenerPolicy.Text.Quoted

namespace OpenerPolicy.Text

/-! ## 1. Faults -/

/-- Bytes that are no text: `count` of them from position `start` on, the first being `byte`. -/
structure DecodeFault where
  codec : String
  start : Nat
  count : Nat
  byte : UInt8
  reason : String

/-- A single byte is shown, several are given by their positions. -/
def DecodeFault.message (f : DecodeFault) : String :=
  if f.count = 1 then
    s!"'{f.codec}' codec can't decode byte 0x"
      ++ String.ofList (hexPadded 2 f.byte.toNat)
      ++ s!" in position {f.start}: {f.reason}"
  else
    s!"'{f.codec}' codec can't decode bytes in position {f.start}-{f.start + f.count - 1}: {f.reason}"

/-- Characters that an encoding has no bytes for: a run of `count` from position `start` on, the
    first being `char`. -/
structure EncodeFault where
  codec : String
  start : Nat
  count : Nat
  char : Char
  reason : String

/-- A single character is shown by its number, several are given by their positions. -/
def EncodeFault.message (f : EncodeFault) : String :=
  if f.count = 1 then
    s!"'{f.codec}' codec can't encode character '"
      ++ String.ofList (numberEscape f.char.toNat)
      ++ s!"' in position {f.start}: {f.reason}"
  else
    s!"'{f.codec}' codec can't encode characters in position {f.start}-{f.start + f.count - 1}: {f.reason}"

/-! ## 2. UTF-8 -/

namespace Utf8

/-- A character some of whose bytes are read: where it started, how many bytes are read, the value
    so far, and the intervals of the bytes to come. -/
structure Pending where
  start : Nat
  count : Nat
  byte : UInt8
  value : Nat
  next : Nat × Nat
  more : List (Nat × Nat)

/-- A continuation byte without a further condition. -/
def tail : Nat × Nat := (0x80, 0xBF)

/-- **What a first byte promises**: the value of its own bits and the intervals of the bytes that
    follow. The second byte is narrowed where a wider one would give an overlong form, a surrogate
    or a number above `0x10FFFF`. -/
def lead? (b : Nat) : Option (Nat × (Nat × Nat) × List (Nat × Nat)) :=
  if 0xC2 ≤ b ∧ b ≤ 0xDF then some (b - 0xC0, tail, [])
  else if b = 0xE0 then some (0, (0xA0, 0xBF), [tail])
  else if b = 0xED then some (0xD, (0x80, 0x9F), [tail])
  else if 0xE1 ≤ b ∧ b ≤ 0xEF then some (b - 0xE0, tail, [tail])
  else if b = 0xF0 then some (0, (0x90, 0xBF), [tail, tail])
  else if b = 0xF4 then some (4, (0x80, 0x8F), [tail, tail])
  else if 0xF1 ≤ b ∧ b ≤ 0xF3 then some (b - 0xF0, tail, [tail, tail])
  else none

/-- **UTF-8, one byte at a time.** `pos` is the position of the first byte of the list. -/
def decodeFrom (pos : Nat) (pending : Option Pending) : List UInt8 → Except DecodeFault (List Char)
  | [] =>
    match pending with
    | none => .ok []
    | some p => .error ⟨"utf-8", p.start, p.count, p.byte, "unexpected end of data"⟩
  | b :: rest =>
    match pending with
    | none =>
      if b.toNat < 0x80 then (Char.ofNat b.toNat :: ·) <$> decodeFrom (pos + 1) none rest
      else
        match lead? b.toNat with
        | none => .error ⟨"utf-8", pos, 1, b, "invalid start byte"⟩
        | some (value, next, more) =>
          decodeFrom (pos + 1) (some ⟨pos, 1, b, value, next, more⟩) rest
    | some p =>
      if p.next.1 ≤ b.toNat ∧ b.toNat ≤ p.next.2 then
        let value := p.value * 64 + b.toNat % 64
        match p.more with
        | [] => (Char.ofNat value :: ·) <$> decodeFrom (pos + 1) none rest
        | next :: more =>
          decodeFrom (pos + 1) (some ⟨p.start, p.count + 1, p.byte, value, next, more⟩) rest
      else .error ⟨"utf-8", p.start, p.count, p.byte, "invalid continuation byte"⟩

def decode (bytes : List UInt8) : Except DecodeFault (List Char) := decodeFrom 0 none bytes

end Utf8

/-- **The bytes of text, in UTF-8**: one to four for each character. -/
def utf8Bytes (s : String) : List UInt8 := s.toList.flatMap String.utf8EncodeChar

/-! ## 3. ASCII and ends of lines -/

/-- ASCII, one byte at a time. -/
def decodeAscii (pos : Nat) : List UInt8 → Except DecodeFault (List Char)
  | [] => .ok []
  | b :: rest =>
    if b.toNat < 0x80 then (Char.ofNat b.toNat :: ·) <$> decodeAscii (pos + 1) rest
    else .error ⟨"ascii", pos, 1, b, "ordinal not in range(128)"⟩

/-- Every end of line among code points as a single line feed: a carriage return with or without a
    line feed after it ends a line too. -/
def unifyLineEnds : List Nat → List Nat
  | [] => []
  | 0x0D :: 0x0A :: rest => 0x0A :: unifyLineEnds rest
  | 0x0D :: rest => 0x0A :: unifyLineEnds rest
  | c :: rest => c :: unifyLineEnds rest

/-! ## 4. Latin-1 -/

namespace Latin1

def holds (c : Char) : Bool := c.toNat < 0x100

/-- The first run of characters that Latin-1 does not hold; `pos` is the position of the list. -/
def faultFrom? (pos : Nat) : List Char → Option EncodeFault
  | [] => none
  | c :: rest =>
    if holds c then faultFrom? (pos + 1) rest
    else some ⟨"latin-1", pos, 1 + (rest.takeWhile (!holds ·)).length, c,
      "ordinal not in range(256)"⟩

/-- **Text that Latin-1 holds, or the first run of characters it does not hold.** -/
def encodable (s : String) : Except EncodeFault String :=
  match faultFrom? 0 s.toList with
  | none => .ok s
  | some f => .error f

/-- A fault is found exactly if some character is not held. -/
theorem faultFrom?_eq_none_iff (pos : Nat) (s : List Char) :
    faultFrom? pos s = none ↔ ∀ c ∈ s, holds c = true := by
  induction s generalizing pos with
  | nil => simp [faultFrom?]
  | cons c rest ih =>
    by_cases h : holds c = true
    · simp [faultFrom?, h, ih]
    · simp [faultFrom?, h]

/-- Encodable text is left as it is. -/
theorem encodable_eq_ok_iff (s t : String) :
    encodable s = .ok t ↔ s = t ∧ ∀ c ∈ s.toList, holds c = true := by
  unfold encodable
  cases h : faultFrom? 0 s.toList with
  | none => simpa using fun _ => (faultFrom?_eq_none_iff 0 s.toList).1 h
  | some f =>
    have : ¬ ∀ c ∈ s.toList, holds c = true := by
      rw [← faultFrom?_eq_none_iff 0, h]
      simp
    simp [this]

end Latin1

end OpenerPolicy.Text
