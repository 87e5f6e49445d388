/-
  File:      OpenerPolicy/Text/Korean.lean
  Subject:   KOREAN TEXT: EUC-KR, CODE PAGE 949 AND JOHAB.

  A syllable is made of a lead, a vowel and often a tail; all of them stand in one order in the set of
  characters. Most encodings list the syllables. EUC-KR can spell out a syllable by its letters, and
  Johab is made of letters throughout.

  * `syllable` -- the syllable of three letters;
  * `eucKrScheme`, `cp949Scheme`, `johabScheme` -- the encodings.
-/
import OpenerPolicy.Text.Chart.Cp949
import OpenerPolicy.Text.Chart.Ksx1001
import OpenerPolicy.Text.Chinese

namespace OpenerPolicy.Text

/-! ## 1. Letters and syllables -/

/-- The letters that start a syllable. -/
def leads : List Char := "ㄱㄲㄴㄷㄸㄹㅁㅂㅃㅅㅆㅇㅈㅉㅊㅋㅌㅍㅎ".toList

/-- The letters that end a syllable. -/
def tails : List Char := "ㄱㄲㄳㄴㄵㄶㄷㄹㄺㄻㄼㄽㄾㄿㅀㅁㅂㅄㅅㅆㅇㅈㅊㅋㅌㅍㅎ".toList

/-- The number of the first letter, and the number of the first vowel. -/
def firstLetter : Nat := 0x3131
def firstVowel : Nat := 0x314F

/-- **The number of the syllable of three letters**, each by its place; the tail at the place zero is
    no letter. -/
def syllable (lead vowel tail : Nat) : Nat := 0xAC00 + (lead * 21 + vowel) * 28 + tail

/-! ## 2. EUC-KR and code page 949 -/

def ksx1001Char? (first second : Nat) : Option Char := ksx1001.char? (raisedCode first second)

/-- The first byte of every letter, and the second byte of the filler. -/
def letterRow : Nat := 0xA4
def fillerCell : Nat := 0xD4

/-- The place of the letter of a second byte among letters. -/
def placeOf? (letters : List Char) (cell : Nat) : Option Nat :=
  if 0xA1 ≤ cell ∧ cell ≤ 0xBE then letters.idxOf? (Char.ofNat (firstLetter + (cell - 0xA1)))
  else none

/-- The syllable of the second bytes of its letters. -/
def spelled? (lead vowel tail : Nat) : Option Char := do
  let l ← placeOf? leads lead
  let v ← if 0xBF ≤ vowel ∧ vowel ≤ 0xD3 then some (vowel - 0xBF) else none
  let t ← if tail = fillerCell then some 0 else (placeOf? tails tail).map (· + 1)
  return Char.ofNat (syllable l v t)

/-- EUC-KR. A filler starts a syllable that is spelled out: three letters of two bytes each follow. -/
def eucKrPiece (b : Nat) (rest : List Nat) : Piece Unit :=
  if b < 0x80 then .own b
  else
    match rest with
    | [] => .incomplete
    | second :: rest =>
      if b = letterRow ∧ second = fillerCell then
        match rest with
        | r₁ :: lead :: r₂ :: vowel :: r₃ :: tail :: _ =>
          if r₁ = letterRow ∧ r₂ = letterRow ∧ r₃ = letterRow then
            .ofChar? (spelled? lead vowel tail) 7
          else .illegal 1
        | _ => .incomplete
      else .ofChar? (ksx1001Char? b second) 1

def eucKrScheme : Scheme Unit := ⟨"euc_kr", (), fun _ => eucKrPiece⟩

def cp949Char? (first second : Nat) : Option Char :=
  (ksx1001Char? first second).or (cp949Additions.char? (pairCode first second))

def cp949Scheme : Scheme Unit := pairsScheme "cp949" fun a b => (cp949Char? a b).map ([·])

/-! ## 3. Johab -/

/-- What five bits say about a letter: which one, or that there is none. -/
inductive Letter where
  | absent
  | at (place : Nat)
  deriving DecidableEq, Repr

def johabLead? (n : Nat) : Option Letter :=
  if n = 1 then some .absent
  else if 2 ≤ n ∧ n ≤ 20 then some (.at (n - 2))
  else none

def johabVowel? (n : Nat) : Option Letter :=
  if n = 2 then some .absent
  else if 3 ≤ n ∧ n ≤ 7 then some (.at (n - 3))
  else if 10 ≤ n ∧ n ≤ 15 then some (.at (n - 5))
  else if 18 ≤ n ∧ n ≤ 23 then some (.at (n - 7))
  else if 26 ≤ n ∧ n ≤ 29 then some (.at (n - 9))
  else none

def johabTail? (n : Nat) : Option Letter :=
  if n = 1 then some .absent
  else if 2 ≤ n ∧ n ≤ 17 then some (.at (n - 2))
  else if 19 ≤ n ∧ n ≤ 29 then some (.at (n - 3))
  else none

/-- The character of three letters: a syllable, a letter that stands alone, or, without a letter, a
    wide space. -/
def composed? (lead vowel tail : Letter) : Option Char :=
  match lead, vowel, tail with
  | .at l, .at v, .absent => some (Char.ofNat (syllable l v 0))
  | .at l, .at v, .at t => some (Char.ofNat (syllable l v (t + 1)))
  | .at l, .absent, .absent => leads[l]?
  | .absent, .at v, .absent => some (Char.ofNat (firstVowel + v))
  | .absent, .absent, .at t => tails[t]?
  | .absent, .absent, .absent => some '\u3000'
  | _, _, _ => none

/-- The character of two bytes that hold three letters, five bits each. -/
def johabLetters? (first second : Nat) : Option Char := do
  let lead ← johabLead? (first / 4 % 32)
  let vowel ← johabVowel? ((first * 8 + second / 32) % 32)
  let tail ← johabTail? (second % 32)
  composed? lead vowel tail

/-- The character of two bytes that tell a row and a column: a first byte has two rows. -/
def johabSymbol? (first second : Nat) : Option Char :=
  if first = 0xDF ∨ 0xF9 < first ∨ second < 0x31 ∨ (0x80 ≤ second ∧ second < 0x91)
      ∨ second % 0x80 = 0x7F ∨ (first = 0xDA ∧ 0xA1 ≤ second ∧ second ≤ 0xD3) then none
  else
    let row := if first < 0xE0 then 2 * first - 0x191 else 2 * first - 0x176
    let column := if second < 0x91 then second - 0x31 else second - 0x43
    ksx1001.char? (if column < 0x5E then pairCode row (column + 0x21)
      else pairCode (row + 1) (column - 0x5E + 0x21))

def johabChar? (first second : Nat) : Option Char :=
  if first < 0xD8 then johabLetters? first second else johabSymbol? first second

def johabScheme : Scheme Unit := pairsScheme "johab" fun a b => (johabChar? a b).map ([·])

end OpenerPolicy.Text
