/-
  File:      OpenerPolicy/Text/Normal.lean
  Subject:   TEXT WITHOUT CHARACTERS THAT STAND FOR OTHER ONES.

  Text is taken apart into plain characters and marks, the marks after a character are put in order,
  and characters are put together with their marks again, as far as there are composites.

  * `plain` -- the plain characters and marks of a code point;
  * `ordered` -- marks in the order of their classes;
  * `absorb`, `composed` -- a character with the marks that it takes up, and whole text;
  * `normalized` -- all of it.
-/
import OpenerPolicy.Text.Chart.Compatible
import OpenerPolicy.Text.Chart.Composite
import OpenerPolicy.Text.Korean
import OpenerPolicy.Text.Split

namespace OpenerPolicy.Text.Normal

/-! ## 1. Taking apart -/

/-- The character and the mark of a composite. -/
def compositeParts? (code : Nat) : List (Nat × String) → Option (Nat × Nat)
  | [] => none
  | (first, chars) :: rest =>
    if first ≤ code ∧ code < first + 0x100 then
      match chars.toList.drop (2 * (code - first)) with
      | c :: mark :: _ => some (c.toNat, mark.toNat)
      | _ => compositeParts? code rest
    else compositeParts? code rest

/-- The characters that a code stands for, among several ones. -/
def expansion? (code : Nat) : List (Nat × String) → Option (List Char)
  | [] => none
  | (first, chars) :: rest =>
    if first ≤ code ∧ code < first + 0x100 then
      match (pieces '|' chars.toList)[code - first]? with
      | some s => some s
      | none => expansion? code rest
    else expansion? code rest

/-- The numbers of the first lead, the first vowel and the character before the first tail, and of the
    first syllable. -/
def leadStart : Nat := 0x1100
def vowelStart : Nat := 0x1161
def tailStart : Nat := 0x11A7
def syllableBase : Nat := 0xAC00

/-- The letters of a syllable, by its place. -/
def syllableParts (place : Nat) : List Nat :=
  let tail := place % 28
  [leadStart + place / 588, vowelStart + place % 588 / 28]
    ++ (if tail = 0 then [] else [tailStart + tail])

/-- How many marks a composite has at most, and one more. -/
def compositeDepth : Nat := 5

/-- **The plain characters and marks of a code point.** -/
def plain (depth c : Nat) : List Nat :=
  match depth with
  | 0 => [c]
  | depth + 1 =>
    if syllableBase ≤ c ∧ c ≤ 0xD7A3 then syllableParts (c - syllableBase)
    else
      match compositeParts? c composites with
      | some (d, mark) => plain depth d ++ [mark]
      | none =>
        match expansion? c expansions with
        | some s => s.map Char.toNat
        | none =>
          match compatible.char? c with
          | some d => [d.toNat]
          | none => [c]

/-- Text taken apart. -/
def takenApart (s : List Nat) : List Nat := s.flatMap (plain compositeDepth)

/-! ## 2. The order of marks -/

/-- The class of a mark; characters that are no marks have the class zero. -/
def markClass (c : Nat) : Nat :=
  match markClasses.find? fun (first, last, _) => first ≤ c && c ≤ last with
  | some (_, _, k) => k
  | none => 0

/-- A character put before others, behind the marks of smaller classes at their beginning. -/
def insertMark (c : Nat) : List Nat → List Nat
  | [] => [c]
  | d :: rest =>
    if markClass d ≠ 0 ∧ markClass d < markClass c then d :: insertMark c rest else c :: d :: rest

/-- **Marks in the order of their classes**; marks of one class keep their order. -/
def ordered (s : List Nat) : List Nat := s.foldr insertMark []

/-! ## 3. Putting together -/

/-- The composite of a character and a mark, in the characters and marks of consecutive ones. -/
def compositeIn? (c mark first : Nat) : List Char → Option Nat
  | d :: m :: rest =>
    if d.toNat = c ∧ m.toNat = mark then some first else compositeIn? c mark (first + 1) rest
  | _ => none

/-- The composite of a character and a mark. -/
def composite? (c mark : Nat) : Option Nat :=
  (composites ++ laterComposites).findSome? fun (first, chars) => compositeIn? c mark first chars.toList

/-- A character with the marks that it takes up, and what is left of the text after it. A mark is out
    of reach behind another one of its class, `blocked`, or of a greater one. -/
def absorb (c blocked : Nat) : List Nat → Nat × List Nat
  | [] => (c, [])
  | d :: rest =>
    let k := markClass d
    if blocked ≠ 0 ∧ k = 0 then (c, d :: rest)
    else if blocked ≠ 0 ∧ k ≤ blocked then
      let (e, rest) := absorb c blocked rest
      (e, d :: rest)
    else
      match composite? c d with
      | some e => absorb e blocked rest
      | none =>
        if k = 0 then (c, d :: rest)
        else
          let (e, rest) := absorb c k rest
          (e, d :: rest)

theorem length_absorb (c blocked : Nat) (s : List Nat) : (absorb c blocked s).2.length ≤ s.length := by
  induction s generalizing c blocked with
  | nil => simp [absorb]
  | cons d rest ih =>
    simp only [absorb]
    split
    · simp
    · split
      · simpa using ih c blocked
      · split
        · next e _ =>
          have := ih e blocked
          simp only [List.length_cons]
          omega
        · split
          · simp
          · simpa using ih c (markClass d)

def isLead (c : Nat) : Bool := leadStart ≤ c && c < leadStart + 19
def isVowel (c : Nat) : Bool := vowelStart ≤ c && c < vowelStart + 21
def isTail (c : Nat) : Bool := tailStart < c && c < tailStart + 28

/-- The syllable that a lead and the letters after it make. -/
def joinLetters (c : Nat) : List Nat → Nat × List Nat
  | [] => (c, [])
  | v :: rest =>
    if isVowel v then
      match rest with
      | [] => (syllable (c - leadStart) (v - vowelStart) 0, [])
      | t :: rest =>
        if isTail t then (syllable (c - leadStart) (v - vowelStart) (t - tailStart), rest)
        else (syllable (c - leadStart) (v - vowelStart) 0, t :: rest)
    else (c, v :: rest)

theorem length_joinLetters (c : Nat) (s : List Nat) : (joinLetters c s).2.length ≤ s.length := by
  unfold joinLetters
  split
  · simp
  · split
    · split
      · simp
      · split
        · simp only [List.length_cons]
          omega
        · simp
    · simp

/-- The first character together with what it takes up. -/
def takeUp (c : Nat) (s : List Nat) : Nat × List Nat := if isLead c then joinLetters c s else absorb c 0 s

theorem length_takeUp (c : Nat) (s : List Nat) : (takeUp c s).2.length ≤ s.length := by
  unfold takeUp
  split
  · exact length_joinLetters c s
  · exact length_absorb c 0 s

/-- **Text put together.** -/
def composed : List Nat → List Nat
  | [] => []
  | c :: rest =>
    have := length_takeUp c rest
    (takeUp c rest).1 :: composed (takeUp c rest).2
termination_by s => s.length
decreasing_by simp only [List.length_cons]; omega

/-- **Text without characters that stand for other ones.** -/
def normalized (s : List Nat) : List Nat := composed (ordered (takenApart s))

end OpenerPolicy.Text.Normal
