/-
  File:      OpenerPolicy/Text/Utf7.lean
  Subject:   UTF-7: text in ASCII alone.

  ASCII characters stand for themselves, except the plus sign, which opens a section. A section holds
  UTF-16 units, their bits in digits of six bits each. A minus sign ends it and is dropped, any other
  character that is no digit ends it and stands for itself. A plus sign with a minus sign right
  after it stands for a plus sign.

  * `Utf7.digit?` -- the value of a digit;
  * `Utf7.Section`, `Utf7.Section.push` -- an open section and how it takes a digit;
  * `Utf7.decode` -- the code points of bytes.
-/
import OpenerPolicy.Text.Encoding
import OpenerPolicy.Text.Surrogate

namespace OpenerPolicy.Text.Utf7

/-- The value of a digit of six bits. -/
def digit? (b : UInt8) : Option Nat :=
  let n := b.toNat
  if 0x41 ≤ n ∧ n ≤ 0x5A then some (n - 0x41)
  else if 0x61 ≤ n ∧ n ≤ 0x7A then some (n - 0x61 + 26)
  else if 0x30 ≤ n ∧ n ≤ 0x39 then some (n - 0x30 + 52)
  else if n = 0x2B then some 62
  else if n = 0x2F then some 63
  else none

/-- An open section: where it started, the bits that make no unit yet, and the first half of a pair
    that waits for its second half. -/
structure Section where
  start : Nat
  count : Nat
  bits : Nat
  half : Option Nat

/-- A unit taken by a section: the points that are complete now, and the half that waits. A half of a
    pair that is left alone is a point of its own. -/
def takeUnit (half : Option Nat) (unit : Nat) : List Nat × Option Nat :=
  match half with
  | some high =>
    if isLowSurrogate unit then ([joinSurrogates high unit], none)
    else if isHighSurrogate unit then ([high], some unit)
    else ([high, unit], none)
  | none => if isHighSurrogate unit then ([], some unit) else ([unit], none)

/-- **A digit taken by a section**, and the points that are complete now. -/
def Section.push (s : Section) (digit : Nat) : Section × List Nat :=
  let count := s.count + 6
  let bits := s.bits * 64 + digit
  if 16 ≤ count then
    let rest := count - 16
    let (points, half) := takeUnit s.half (bits / Nat.pow 2 rest)
    (⟨s.start, rest, bits % Nat.pow 2 rest, half⟩, points)
  else (⟨s.start, count, bits, s.half⟩, [])

/-- Why a section cannot end where it does. -/
def Section.leftOver? (s : Section) : Option String :=
  if 6 ≤ s.count then some "partial character in shift sequence"
  else if s.bits ≠ 0 then some "non-zero padding bits in shift sequence"
  else none

/-- What a section leaves behind before a byte that ends it. -/
def Section.remains (s : Section) (b : UInt8) : List Nat :=
  if b.toNat < 0x80 && b ≠ 0x2B then s.half.toList else []

/-- A fault of the bytes from a position up to another one. -/
def faultAt (start stop : Nat) (first : UInt8) (reason : String) : DecodeFault :=
  ⟨"utf7", start, stop - start, first, reason⟩

/-- The code points from some byte on; `pos` is its position. -/
def decodeFrom (pos : Nat) (current : Option Section) : List UInt8 → Except DecodeFault (List Nat)
  | [] =>
    match current with
    | none => .ok []
    | some s =>
      if s.half.isSome || 6 ≤ s.count || s.bits ≠ 0 then
        .error (faultAt s.start pos 0x2B "unterminated shift sequence")
      else .ok []
  | b :: rest =>
    match current with
    | some s =>
      match digit? b with
      | some digit =>
        let (s, points) := s.push digit
        (points ++ ·) <$> decodeFrom (pos + 1) (some s) rest
      | none =>
        match s.leftOver? with
        | some reason => .error (faultAt s.start (pos + 1) 0x2B reason)
        | none =>
          if b = 0x2D then (s.remains b ++ ·) <$> decodeFrom (pos + 1) none rest
          else if b.toNat < 0x80 then
            (s.remains b ++ b.toNat :: ·) <$> decodeFrom (pos + 1) none rest
          else .error (faultAt pos (pos + 1) b "unexpected special character")
    | none =>
      if b = 0x2B then
        match rest with
        | [] => decodeFrom (pos + 1) (some ⟨pos, 0, 0, none⟩) []
        | c :: after =>
          if c = 0x2D then (0x2B :: ·) <$> decodeFrom (pos + 2) none after
          else if (digit? c).isNone then .error (faultAt pos (pos + 2) b "ill-formed sequence")
          else decodeFrom (pos + 1) (some ⟨pos, 0, 0, none⟩) (c :: after)
      else if b.toNat < 0x80 then (b.toNat :: ·) <$> decodeFrom (pos + 1) none rest
      else .error (faultAt pos (pos + 1) b "unexpected special character")

/-- **The code points of bytes in UTF-7.** Among them may be surrogates that stand alone. -/
def decode (bytes : List UInt8) : Except DecodeFault (List Nat) := decodeFrom 0 none bytes

end OpenerPolicy.Text.Utf7
