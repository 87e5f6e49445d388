/-
  File:      OpenerPolicy/Number/Binary64.lean
  Subject:   DOUBLE-PRECISION NUMBERS AS EXACT BINARY FRACTIONS.

  A finite double is `± mantissa · 2 ^ exponent` with a mantissa below `2 ^ 53`. All arithmetic is on
  natural numbers, so every statement about a double is one about these two.

  * `roundDiv` -- the nearest integer to a quotient, a half going to the even neighbour;
  * `Binary64.ofRatio` -- the double nearest to a quotient of natural numbers;
  * `Binary64.ofDecimal`, `Binary64.ofInt?` -- the double nearest to a decimal, to an integer;
  * `Binary64.truncate?` -- a finite double cut toward zero; `Binary64.toInt?` -- as an integer, if it
    is one.
-/

namespace OpenerPolicy.Number

/-! ## 1. Rounding a quotient -/

/-- **The nearest integer to `num / den`**; a half goes to the even neighbour. -/
def roundDiv (num den : Nat) : Nat :=
  let q := num / den
  let r := num % den
  if den < 2 * r ∨ (2 * r = den ∧ q % 2 = 1) then q + 1 else q

/-! ## 2. Doubles -/

/-- A double. `finite` is `± mantissa · 2 ^ exponent`, with `mantissa < 2 ^ 53` and
    `-1074 ≤ exponent ≤ 971`; zero keeps its sign. -/
inductive Binary64 where
  | finite (negative : Bool) (mantissa : Nat) (exponent : Int)
  | infinite (negative : Bool)
  | nan
  deriving DecidableEq, Repr, Inhabited

namespace Binary64

def zero (negative : Bool) : Binary64 := .finite negative 0 (-1074)

/-- A natural number times a power of two, as a quotient. -/
def scaled (m : Nat) (e : Int) : Nat × Nat := (m * Nat.pow 2 e.toNat, Nat.pow 2 (-e).toNat)

/-- The exponent of the grid on which `num / den` has 53 bits, or the smallest one of all. -/
def gridExponent (num den : Nat) : Int :=
  let guess : Int := (num.log2 : Int) - (den.log2 : Int) - 52
  let (n, d) := (num * Nat.pow 2 (-guess).toNat, den * Nat.pow 2 guess.toNat)
  max (if n / d < Nat.pow 2 52 then guess - 1 else guess) (-1074)

/-- **The double nearest to `num / den`**, a half going to the even mantissa; beyond the largest
    finite one it is infinite. -/
def ofRatio (negative : Bool) (num den : Nat) : Binary64 :=
  if num = 0 then zero negative
  else
    let e := gridExponent num den
    let m := roundDiv (num * Nat.pow 2 (-e).toNat) (den * Nat.pow 2 e.toNat)
    let (m, e) := if m = Nat.pow 2 53 then (Nat.pow 2 52, e + 1) else (m, e)
    if 971 < e then .infinite negative else .finite negative m e

/-- The double nearest to `digits · 10 ^ exponent`, where `digits` has `count` digits. Far beyond
    either end of the range the power of ten is not computed. -/
def ofDecimal (negative : Bool) (digits count : Nat) (exponent : Int) : Binary64 :=
  if digits = 0 then zero negative
  else if 400 < (count : Int) + exponent then .infinite negative
  else if (count : Int) + exponent < -400 then zero negative
  else ofRatio negative (digits * Nat.pow 10 exponent.toNat) (Nat.pow 10 (-exponent).toNat)

/-- The double nearest to an integer; none if it is beyond the finite ones. -/
def ofInt? (n : Int) : Option Binary64 :=
  match ofRatio (n < 0) n.natAbs 1 with
  | .finite s m e => some (.finite s m e)
  | _ => none

def isNegative : Binary64 → Bool
  | .finite s _ _ => s
  | .infinite s => s
  | .nan => false

/-- The integer part, toward zero; none if there is no finite value. -/
def truncate? : Binary64 → Option Int
  | .finite s m e =>
    let (num, den) := scaled m e
    some (if s then -((num / den : Nat) : Int) else (num / den : Nat))
  | _ => none

/-- The value as an integer, if it is one. -/
def toInt? : Binary64 → Option Int
  | .finite s m e =>
    let (num, den) := scaled m e
    if num % den = 0 then some (if s then -((num / den : Nat) : Int) else (num / den : Nat)) else none
  | _ => none

/-- Whether the value is a zero of either sign. -/
def isZero : Binary64 → Bool
  | .finite _ m _ => m = 0
  | _ => false

end Binary64

end OpenerPolicy.Number
