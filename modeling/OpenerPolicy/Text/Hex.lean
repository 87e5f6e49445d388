/-
  File:      OpenerPolicy/Text/Hex.lean
  Subject:   HEXADECIMAL DIGITS, and numbers of fixed width.

  * `hexDigit`, `hexValue?` -- a digit and its value; both cases are read, lowercase is written;
  * `hexPadded` -- the last digits of a number, as many as are asked for.
-/

namespace OpenerPolicy.Text

/-- The lowercase digit of a value below 16. -/
def hexDigit (n : Nat) : Char :=
  if n < 10 then Char.ofNat (0x30 + n) else Char.ofNat (0x57 + n)

/-- The value of a digit of either case. -/
def hexValue? (c : Char) : Option Nat :=
  if '0' ≤ c ∧ c ≤ '9' then some (c.toNat - 0x30)
  else if 'a' ≤ c ∧ c ≤ 'f' then some (c.toNat - 0x57)
  else if 'A' ≤ c ∧ c ≤ 'F' then some (c.toNat - 0x37)
  else none

/-- The last `width` hexadecimal digits of a number. -/
def hexPadded : (width : Nat) → Nat → List Char
  | 0, _ => []
  | width + 1, n => hexPadded width (n / 16) ++ [hexDigit (n % 16)]

end OpenerPolicy.Text
