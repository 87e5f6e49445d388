/-
  File:      OpenerPolicy/Number/Decimal.lean
  Subject:   THE DECIMAL TEXT OF DOUBLES: the fewest digits that read back, or a given number of them.

  * `shortest` -- the fewest digits that read back as the same double, and of these the nearest;
  * `fixedDigits`, `leadingDigits` -- the value rounded to a number of places, or of digits;
  * `Layout` -- the decisions of a written form: where positional notation ends and what is kept;
  * `Binary64.text` -- the form used in messages and documents: `0.1`, `100.0`, `1e+16`, `1e-07`;
  * `Binary64.fixed`, `Binary64.scientific`, `Binary64.general` -- the forms of message templates.
-/
import OpenerPolicy.Number.Binary64

namespace OpenerPolicy.Number

/-! ## 1. Digits -/

/-- The decimal digits of a natural number. -/
def digitChars (n : Nat) : List Char := Nat.toDigits 10 n

/-- The largest number of digits that an integer is read from. -/
def maxIntegerDigits : Nat := 4300

/-- What is said of an integer with more digits. -/
def tooManyDigits (digits : Nat) : String :=
  s!"Exceeds the limit ({maxIntegerDigits} digits) for integer string conversion: "
    ++ s!"value has {digits} digits; use sys.set_int_max_str_digits() to increase the limit"

/-- Counts how often `num / den` can be multiplied by ten and stay below one. -/
def leadingZeros : (fuel : Nat) → Nat → Nat → Nat
  | 0, _, _ => 0
  | fuel + 1, num, den => if den ≤ num * 10 then 0 else 1 + leadingZeros fuel (num * 10) den

/-- **The place of the decimal point**: the `p` with `10 ^ (p - 1) ≤ num / den < 10 ^ p`. A double
    has fewer than 400 zeros after the point. -/
def pointOf (num den : Nat) : Int :=
  if den ≤ num then (digitChars (num / den)).length else -(leadingZeros 400 num den : Nat)

/-- `num / den` in units of `10 ^ k`, as a quotient. -/
def inUnits (num den : Nat) (k : Int) : Nat × Nat :=
  (num * Nat.pow 10 (-k).toNat, den * Nat.pow 10 k.toNat)

/-! ## 2. The fewest digits that read back -/

/-- The reals that round to a double, in quarters of its last place: from `lo` to `hi`, the ends
    included if its mantissa is even. Below a power of two the doubles are closer together. -/
structure Neighbourhood where
  lo : Nat × Nat
  hi : Nat × Nat
  closed : Bool

def Neighbourhood.of (m : Nat) (e : Int) : Neighbourhood :=
  let below := if m = Nat.pow 2 52 ∧ -1074 < e then 4 * m - 1 else 4 * m - 2
  ⟨Binary64.scaled below (e - 2), Binary64.scaled (4 * m + 2) (e - 2), m % 2 = 0⟩

/-- Whether `d · 10 ^ k` lies in the neighbourhood. -/
def Neighbourhood.holds (h : Neighbourhood) (d : Nat) (k : Int) : Bool :=
  let num := d * Nat.pow 10 k.toNat
  let den := Nat.pow 10 (-k).toNat
  let left := (h.lo.1 * den, num * h.lo.2)
  let right := (num * h.hi.2, h.hi.1 * den)
  if h.closed then left.1 ≤ left.2 && right.1 ≤ right.2
  else left.1 < left.2 && right.1 < right.2

/-- The nearer of the two multiples of `10 ^ k` around `num / den` that lie in the neighbourhood. -/
def Neighbourhood.nearest? (h : Neighbourhood) (num den : Nat) (k : Int) : Option Nat :=
  let (n, d) := inUnits num den k
  let below := n / d
  match h.holds below k, h.holds (below + 1) k with
  | true, true => some (if 2 * (n % d) ≤ d then below else below + 1)
  | true, false => some below
  | false, true => some (below + 1)
  | false, false => none

/-- Tries 1, 2, … digits; 17 are always enough. -/
def shortestFrom (h : Neighbourhood) (num den : Nat) (point : Int) : (left digits : Nat) → Nat × Int
  | 0, digits => (roundDiv (inUnits num den (point - digits)).1 (inUnits num den (point - digits)).2,
      point - digits)
  | left + 1, digits =>
    match h.nearest? num den (point - digits) with
    | some d => (d, point - digits)
    | none => shortestFrom h num den point left (digits + 1)

/-- **The fewest digits that read back** as the double `m · 2 ^ e`, for `0 < m`: `(d, k)` stands
    for `d · 10 ^ k`. -/
def shortest (m : Nat) (e : Int) : Nat × Int :=
  let (num, den) := Binary64.scaled m e
  shortestFrom (.of m e) num den (pointOf num den) 16 1

/-! ## 3. A given number of digits -/

/-- The value rounded to `places` decimal places, as a number of units of the last place. -/
def fixedDigits (num den places : Nat) : Nat := roundDiv (num * Nat.pow 10 places) den

/-- The value rounded to `count` digits: the digits, and the place of the decimal point. -/
def leadingDigits (num den count : Nat) : Nat × Int :=
  if num = 0 then (0, 1)
  else
    let point := pointOf num den
    let (n, d) := inUnits num den (point - count)
    let digits := roundDiv n d
    if digits = Nat.pow 10 count then (Nat.pow 10 (count - 1), point + 1) else (digits, point)

/-! ## 4. Written forms -/

/-- Digits before and after the point, filled with zeros on either side. -/
def placePoint (digits : List Char) (point : Int) : List Char × List Char :=
  if point ≤ 0 then (['0'], List.replicate (-point).toNat '0' ++ digits)
  else
    let whole := digits.take point.toNat
    (whole ++ List.replicate (point.toNat - whole.length) '0', digits.drop point.toNat)

/-- An exponent with its sign and at least two digits. -/
def exponentChars (mark : Char) (e : Int) : List Char :=
  let digits := digitChars e.natAbs
  mark :: (if e < 0 then '-' else '+') :: List.replicate (2 - digits.length) '0' ++ digits

/-- `whole.fraction`; without a fraction the point stands only if `keepPoint`. -/
def joinPoint (keepPoint : Bool) (whole fraction : List Char) : List Char :=
  if fraction.isEmpty && !keepPoint then whole else whole ++ '.' :: fraction

/-- First digit, point, further digits, exponent. -/
def scientificChars (keepPoint : Bool) (mark : Char) (digits : List Char) (point : Int) : List Char :=
  joinPoint keepPoint (digits.take 1) (digits.drop 1) ++ exponentChars mark (point - 1)

def dropTrailingZeros (digits : List Char) : List Char :=
  (digits.reverse.dropWhile (· = '0')).reverse

/-- The decisions of a written form without a given number of digits. -/
structure Layout where
  /-- Positional notation is used for a decimal point after this place … -/
  lowest : Int
  /-- … and up to this one. -/
  highest : Int
  /-- Stands after the point of a value without a fraction. -/
  emptyFraction : List Char
  mark : Char
  nan : String
  infinity : String

/-- **The written form of doubles in messages and documents**: positional from `0.0001` up to below
    `10 ^ 16`, with `.0` where there is no fraction. -/
def Layout.plain : Layout := ⟨-4, 16, ['0'], 'e', "nan", "inf"⟩

/-- Doubles in a JSON document: the same, with names of its own for the three special values. -/
def Layout.document : Layout := { Layout.plain with nan := "NaN", infinity := "Infinity" }

def Layout.write (l : Layout) (m : Nat) (e : Int) : List Char :=
  if m = 0 then '0' :: '.' :: l.emptyFraction
  else
    let (d, k) := shortest m e
    let all := digitChars d
    let point := (all.length : Int) + k
    let digits := dropTrailingZeros all
    if l.lowest < point ∧ point ≤ l.highest then
      let (whole, fraction) := placePoint digits point
      joinPoint true whole (if fraction.isEmpty then l.emptyFraction else fraction)
    else scientificChars false l.mark digits point

namespace Binary64

def signed (negative : Bool) (text : List Char) : String :=
  String.ofList (if negative then '-' :: text else text)

/-- **The shortest text that reads back**, in a given layout. -/
def text (l : Layout) : Binary64 → String
  | .finite s m e => signed s (l.write m e)
  | .infinite s => signed s l.infinity.toList
  | .nan => l.nan

/-- The text of the value without its sign, or the name of a special value. -/
def unsigned (write : Nat → Nat → List Char) : Binary64 → List Char
  | .finite _ m e => write (scaled m e).1 (scaled m e).2
  | .infinite _ => "inf".toList
  | .nan => "nan".toList

/-- No double has more decimal places or more significant digits: whatever is asked for beyond is
    zeros. -/
def exactPlaces : Nat := 1074

/-- A given number of decimal places. -/
def fixed (keepPoint : Bool) (places : Nat) : Binary64 → List Char :=
  unsigned fun num den =>
    let exact := min places exactPlaces
    let digits := digitChars (fixedDigits num den exact)
    let padded := List.replicate (exact + 1 - digits.length) '0' ++ digits
    let cut := padded.length - exact
    joinPoint keepPoint (padded.take cut)
      (padded.drop cut ++ List.replicate (places - exact) '0')

/-- One digit before the point, a given number after it, and an exponent. -/
def scientific (keepPoint : Bool) (places : Nat) : Binary64 → List Char :=
  unsigned fun num den =>
    let exact := min places exactPlaces
    let (digits, point) := leadingDigits num den (exact + 1)
    let chars := if digits = 0 then List.replicate (exact + 1) '0' else digitChars digits
    scientificChars keepPoint 'e' (chars ++ List.replicate (places - exact) '0') point

/-- At most `count` digits, positional where the exponent is at least `-4` and below `count`;
    zeros at the end of the fraction are dropped unless `keepZeros`. -/
def general (keepZeros : Bool) (count : Nat) : Binary64 → List Char :=
  unsigned fun num den =>
    let count := max count 1
    let exact := min count exactPlaces
    let (digits, point) := leadingDigits num den exact
    let all := if digits = 0 then List.replicate exact '0' else digitChars digits
    let chars :=
      if keepZeros then all ++ List.replicate (count - exact) '0' else dropTrailingZeros all
    let chars := if chars.isEmpty then ['0'] else chars
    if -4 ≤ point - 1 ∧ point - 1 < count then
      let (whole, fraction) := placePoint chars point
      joinPoint keepZeros whole fraction
    else scientificChars keepZeros 'e' chars point

end Binary64

end OpenerPolicy.Number
