/-
  File:      OpenerPolicy/Text/NameRun.lean
  Subject:   NAMES OF CONSECUTIVE CHARACTERS.

  The names of neighbours often start alike, so a run says once what its names have in common.

  * `NameRun`, `NameRun.ends` -- a run, and how its names go on, in the order of the characters;
  * `NameRun.point?` -- the number of the character of a name.
-/
import OpenerPolicy.Text.Split

namespace OpenerPolicy.Text

/-- Names of consecutive characters: the number of the first one, what all names start with, and how
    they go on, with bars between them. -/
structure NameRun where
  first : Nat
  common : String
  rests : List String
  deriving DecidableEq, Repr

namespace NameRun

/-- How the names go on. -/
def ends (r : NameRun) : List (List Char) := r.rests.flatMap fun row => pieces '|' row.toList

/-- **The number of the character of a name.** -/
def point? (r : NameRun) (name : List Char) : Option Nat :=
  if r.common.toList.isPrefixOf name then
    (r.ends.idxOf? (name.drop r.common.toList.length)).map (r.first + ·)
  else none

end NameRun

end OpenerPolicy.Text
