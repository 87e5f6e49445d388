/-
  File:      OpenerPolicy/Text/Surrogate.lean
  Subject:   SURROGATES: the code points that are no characters, and stand for one in pairs.

  * `isSurrogate`, `isHighSurrogate`, `isLowSurrogate` -- all of them, and the two halves of pairs;
  * `joinSurrogates` -- the code point of a pair;
  * `points` -- the code points of text, among which there are none.
-/

namespace OpenerPolicy.Text

def isSurrogate (c : Nat) : Bool := 0xD800 ≤ c && c < 0xE000

/-- First half of a pair. -/
def isHighSurrogate (c : Nat) : Bool := 0xD800 ≤ c && c < 0xDC00

/-- Second half of a pair. -/
def isLowSurrogate (c : Nat) : Bool := 0xDC00 ≤ c && c < 0xE000

/-- **The code point of a surrogate pair.** -/
def joinSurrogates (high low : Nat) : Nat := 0x10000 + (high - 0xD800) * 0x400 + (low - 0xDC00)

/-- The code points of text. -/
def points (s : String) : List Nat := s.toList.map Char.toNat

end OpenerPolicy.Text
