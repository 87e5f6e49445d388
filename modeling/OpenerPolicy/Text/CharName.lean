/-
  File:      OpenerPolicy/Text/CharName.lean
  Subject:   CHARACTERS BY NAME.

  Most names are listed. The name of a syllable is made of the names of its letters, the name of an
  ideograph holds its number. In a listed name capitals make no difference.

  * `syllableOfName?`, `ideographOfName?`, `listedPoint?` -- the three kinds of names;
  * `pointOfName?` -- the number of the character of a name.
-/
import OpenerPolicy.Text.Hex
import OpenerPolicy.Text.Korean
import OpenerPolicy.Text.NameRun.Abjads
import OpenerPolicy.Text.NameRun.Aliases
import OpenerPolicy.Text.NameRun.Alphabets
import OpenerPolicy.Text.NameRun.Ancient
import OpenerPolicy.Text.NameRun.Cuneiform
import OpenerPolicy.Text.NameRun.EastAsian
import OpenerPolicy.Text.NameRun.Forms
import OpenerPolicy.Text.NameRun.Ideograms
import OpenerPolicy.Text.NameRun.Musical
import OpenerPolicy.Text.NameRun.Pictures
import OpenerPolicy.Text.NameRun.Syllabaries
import OpenerPolicy.Text.NameRun.Symbols

namespace OpenerPolicy.Text

/-! ## 1. Syllables -/

/-- The names of letters that start a syllable, of vowels, and of letters that end one. A letter
    without a sound has no name at the start, and no letter has none at the end. -/
def leadNames : List String :=
  ["G", "GG", "N", "D", "DD", "R", "M", "B", "BB", "S", "SS", "", "J", "JJ", "C", "K", "T", "P", "H"]
def vowelNames : List String :=
  ["A", "AE", "YA", "YAE", "EO", "E", "YEO", "YE", "O", "WA", "WAE", "OE", "YO", "U", "WEO", "WE",
   "WI", "YU", "EU", "YI", "I"]
def tailNames : List String :=
  ["", "G", "GG", "GS", "N", "NJ", "NH", "D", "L", "LG", "LM", "LB", "LS", "LT", "LP", "LH", "M", "B",
   "BS", "S", "SS", "NG", "J", "C", "K", "T", "P", "H"]

/-- The place of the longest of several names that text starts with, and the length of it; `place` is
    the place of the first of them. -/
def longest? (place : Nat) (names : List String) (s : List Char) : Option (Nat × Nat) :=
  match names with
  | [] => none
  | name :: more =>
    let later := longest? (place + 1) more s
    if name.toList.isPrefixOf s then
      match later with
      | some (i, length) => some (if name.length < length then (i, length) else (place, name.length))
      | none => some (place, name.length)
    else later

/-- **The number of the syllable of a name.** -/
def syllableOfName? (s : List Char) : Option Nat := do
  let (lead, n) ← longest? 0 leadNames s
  let s := s.drop n
  let (vowel, n) ← longest? 0 vowelNames s
  let s := s.drop n
  let (tail, n) ← longest? 0 tailNames s
  if (s.drop n).isEmpty then some (syllable lead vowel tail) else none

/-! ## 2. Ideographs -/

/-- The unified ideographs: first and last numbers. -/
def ideographs : List (Nat × Nat) :=
  [(0x3400, 0x4DBF), (0x4E00, 0x9FFF), (0x20000, 0x2A6DF), (0x2A700, 0x2B738), (0x2B740, 0x2B81D),
   (0x2B820, 0x2CEA1), (0x2CEB0, 0x2EBE0), (0x30000, 0x3134A)]

/-- The number of hexadecimal digits without lowercase letters. -/
def capitalHex? (s : List Char) : Option Nat :=
  if s.any Char.isLower then none
  else s.foldlM (fun n c => (hexValue? c).map (16 * n + ·)) 0

/-- **The number of the ideograph of four or five digits.** -/
def ideographOfName? (s : List Char) : Option Nat := do
  let n ← capitalHex? s
  if (s.length = 4 ∨ s.length = 5) ∧ ideographs.any fun (first, last) => first ≤ n && n ≤ last then
    some n
  else none

/-! ## 3. Listed names -/

def nameRuns : List NameRun :=
  alphabetNames ++ abjadNames ++ syllabaryNames ++ symbolNames ++ eastAsianNames ++ formNames
    ++ ancientNames ++ cuneiformNames ++ ideogramNames ++ musicalNames ++ pictureNames ++ aliasNames

/-- Names that end in the number of the character: the first and the last number, and what comes
    before the number. -/
def numberedNames : List (Nat × Nat × String) :=
  [(0xF900, 0xFA6D, "CJK COMPATIBILITY IDEOGRAPH-"), (0xFA70, 0xFAD9, "CJK COMPATIBILITY IDEOGRAPH-"),
   (0x2F800, 0x2FA1D, "CJK COMPATIBILITY IDEOGRAPH-"),
   (0x18B00, 0x18CD5, "KHITAN SMALL SCRIPT CHARACTER-"), (0x1B170, 0x1B2FB, "NUSHU CHARACTER-")]

/-- How many digits a number in a name has. -/
def nameDigits (n : Nat) : Nat := if n < 0x10000 then 4 else 5

/-- The number at the end of a name that starts with a given text. -/
def numberedPoint? (name : List Char) : Nat × Nat × String → Option Nat
  | (first, last, common) => do
    let digits := name.drop common.length
    let n ← capitalHex? digits
    if common.toList.isPrefixOf name ∧ digits.length = nameDigits n ∧ first ≤ n ∧ n ≤ last then some n
    else none

/-- **The number of the character of a listed name.** -/
def listedPoint? (name : List Char) : Option Nat :=
  let name := name.map Char.toUpper
  (nameRuns.findSome? (·.point? name)).or (numberedNames.findSome? (numberedPoint? name))

/-! ## 4. All names -/

def syllableStart : String := "HANGUL SYLLABLE "
def ideographStart : String := "CJK UNIFIED IDEOGRAPH-"

/-- **The number of the character of a name.** -/
def pointOfName? (name : List Char) : Option Nat :=
  if syllableStart.toList.isPrefixOf name then syllableOfName? (name.drop syllableStart.length)
  else if ideographStart.toList.isPrefixOf name then ideographOfName? (name.drop ideographStart.length)
  else listedPoint? name

end OpenerPolicy.Text
