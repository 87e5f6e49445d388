/-
  File:      OpenerPolicy/Text/Chart.lean
  Subject:   CHARTS: the characters of a set by code.

  Most codes next to each other stand for characters without any order, so the characters are listed;
  some stand for a run of consecutive ones, so only the first of them is named. No run goes on from one
  row to the next, that is, over a multiple of 256.

  * `Chart`, `Chart.char?` -- a chart, and the character of a code;
  * `pairCode` -- the code of two bytes.
-/

namespace OpenerPolicy.Text

/-- The characters of a set: listed ones, each run with the code of its first character, and ranges of
    codes for consecutive characters, each with its first code, its last code and the number of its
    first character. -/
structure Chart where
  runs : List (Nat × String)
  ranges : List (Nat × Nat × Nat)
  deriving DecidableEq, Repr

/-- The code of two bytes. -/
def pairCode (first second : Nat) : Nat := first * 0x100 + second

/-- The character of a code among listed ones. -/
def charInRuns? (code : Nat) : List (Nat × String) → Option Char
  | [] => none
  | (first, chars) :: rest =>
    if first ≤ code ∧ code < first + 0x100 then
      match chars.toList[code - first]? with
      | some c => some c
      | none => charInRuns? code rest
    else charInRuns? code rest

/-- The character of a code within ranges. -/
def charInRanges? (code : Nat) : List (Nat × Nat × Nat) → Option Char
  | [] => none
  | (first, last, point) :: rest =>
    if first ≤ code ∧ code ≤ last then some (Char.ofNat (point + (code - first)))
    else charInRanges? code rest

/-- **The character of a code.** -/
def Chart.char? (chart : Chart) (code : Nat) : Option Char :=
  match charInRanges? code chart.ranges with
  | some c => some c
  | none => charInRuns? code chart.runs

end OpenerPolicy.Text
