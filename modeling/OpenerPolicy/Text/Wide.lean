/-
  File:      OpenerPolicy/Text/Wide.lean
  Subject:   TEXT IN UNITS OF TWO OR FOUR BYTES: UTF-16 AND UTF-32.

  The bytes of a unit come in one of two orders. Text may start with a byte order mark, a code point
  that tells the order and is no part of the text.

  * `ByteOrder`, `ByteOrder.value` -- the two orders, and the number that bytes stand for;
  * `Utf16.decodeFrom`, `Utf32.decodeFrom` -- the text of bytes in a given order;
  * `Utf16.mark?`, `Utf32.mark?` -- the order that a byte order mark tells, and what follows it.
-/
import OpenerPolicy.Text.Encoding
import OpenerPolicy.Text.Surrogate

namespace OpenerPolicy.Text

/-! ## 1. Units -/

/-- Which byte of a unit comes first. -/
inductive ByteOrder where
  /-- The one of the least weight. -/
  | little
  /-- The one of the greatest weight. -/
  | big
  deriving DecidableEq, Repr

namespace ByteOrder

/-- **The number that the bytes of a unit stand for.** -/
def value (o : ByteOrder) (bytes : List UInt8) : Nat :=
  match o with
  | .little => bytes.foldr (fun b n => b.toNat + 256 * n) 0
  | .big => bytes.foldl (fun n b => 256 * n + b.toNat) 0

/-- The end of the name of an encoding with the order. -/
def nameEnd : ByteOrder → String
  | .little => "le"
  | .big => "be"

end ByteOrder

/-! ## 2. UTF-16 -/

namespace Utf16

def codec (o : ByteOrder) : String := "utf-16-" ++ o.nameEnd

/-- **UTF-16 in a given order.** `pos` is the position of the first byte of the list. A first half of
    a pair needs its second half right after it. -/
def decodeFrom (o : ByteOrder) (pos : Nat) : List UInt8 → Except DecodeFault (List Char)
  | [] => .ok []
  | [a] => .error ⟨codec o, pos, 1, a, "truncated data"⟩
  | [a, b] =>
    let unit := o.value [a, b]
    if isHighSurrogate unit then .error ⟨codec o, pos, 2, a, "unexpected end of data"⟩
    else if isLowSurrogate unit then .error ⟨codec o, pos, 2, a, "illegal encoding"⟩
    else .ok [Char.ofNat unit]
  | [a, b, c] =>
    let unit := o.value [a, b]
    if isHighSurrogate unit then .error ⟨codec o, pos, 3, a, "unexpected end of data"⟩
    else if isLowSurrogate unit then .error ⟨codec o, pos, 2, a, "illegal encoding"⟩
    else (Char.ofNat unit :: ·) <$> decodeFrom o (pos + 2) [c]
  | a :: b :: c :: d :: rest =>
    let unit := o.value [a, b]
    if isHighSurrogate unit then
      let second := o.value [c, d]
      if isLowSurrogate second then
        (Char.ofNat (joinSurrogates unit second) :: ·) <$> decodeFrom o (pos + 4) rest
      else .error ⟨codec o, pos, 2, a, "illegal UTF-16 surrogate"⟩
    else if isLowSurrogate unit then .error ⟨codec o, pos, 2, a, "illegal encoding"⟩
    else (Char.ofNat unit :: ·) <$> decodeFrom o (pos + 2) (c :: d :: rest)

/-- **The order that a byte order mark tells**, and the bytes that follow the mark. -/
def mark? : List UInt8 → Option (ByteOrder × List UInt8)
  | 0xFF :: 0xFE :: rest => some (.little, rest)
  | 0xFE :: 0xFF :: rest => some (.big, rest)
  | _ => none

end Utf16

/-! ## 3. UTF-32 -/

namespace Utf32

def codec (o : ByteOrder) : String := "utf-32-" ++ o.nameEnd

/-- **UTF-32 in a given order.** -/
def decodeFrom (o : ByteOrder) (pos : Nat) : List UInt8 → Except DecodeFault (List Char)
  | [] => .ok []
  | a :: b :: c :: d :: rest =>
    let point := o.value [a, b, c, d]
    if isSurrogate point then
      .error ⟨codec o, pos, 4, a, "code point in surrogate code point range(0xd800, 0xe000)"⟩
    else if 0x110000 ≤ point then
      .error ⟨codec o, pos, 4, a, "code point not in range(0x110000)"⟩
    else (Char.ofNat point :: ·) <$> decodeFrom o (pos + 4) rest
  | a :: rest => .error ⟨codec o, pos, 1 + rest.length, a, "truncated data"⟩

/-- **The order that a byte order mark tells**, and the bytes that follow the mark. -/
def mark? : List UInt8 → Option (ByteOrder × List UInt8)
  | 0xFF :: 0xFE :: 0x00 :: 0x00 :: rest => some (.little, rest)
  | 0x00 :: 0x00 :: 0xFE :: 0xFF :: rest => some (.big, rest)
  | _ => none

end Utf32

end OpenerPolicy.Text
