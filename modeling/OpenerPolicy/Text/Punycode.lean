/-
  File:      OpenerPolicy/Text/Punycode.lean
  Subject:   PUNYCODE: any text in ASCII.

  The ASCII characters of a text come first, then a hyphen if there are any; numbers that follow tell
  which other characters are put in, and where. A number is written in digits of base 36, and the
  digit that ends it depends on the numbers before.

  * `threshold`, `adapt` -- which digits end a number;
  * `encode` -- the code of text;
  * `decode` -- the code points of bytes, or a `PunycodeFault`;
  * `readNumber_length` -- a number takes up digits.
-/
import OpenerPolicy.Text.Encoding
import OpenerPolicy.Text.Surrogate

namespace OpenerPolicy.Text.Punycode

/-! ## 1. Numbers -/

/-- The digits below this end a number; `place` is the place of the digit. -/
def threshold (place bias : Nat) : Nat := min 26 (max 1 (36 * (place + 1) - bias))

/-- How often a number is divided until it is small, and what is left. -/
def settle (fuel divisions delta : Nat) : Nat × Nat :=
  match fuel with
  | 0 => (divisions, delta)
  | fuel + 1 => if 455 < delta then settle fuel (divisions + 36) (delta / 35) else (divisions, delta)

/-- **The bias after a number**; `count` characters are there then. -/
def adapt (delta : Nat) (first : Bool) (count : Nat) : Nat :=
  let delta := if first then delta / 700 else delta / 2
  let delta := delta + delta / count
  let (divisions, delta) := settle delta 0 delta
  divisions + 36 * delta / (delta + 38)

/-! ## 2. Reading -/

/-- Why bytes are no code. -/
inductive PunycodeFault where
  | malformed (f : DecodeFault)
  /-- The code ends within a number. -/
  | incomplete
  | noDigit (c : Char)
  /-- A character beyond all of them. -/
  | noCharacter (point : Nat)

def PunycodeFault.message : PunycodeFault → String
  | .malformed f => f.message
  | .incomplete => "incomplete punicode string"
  | .noDigit c => "Invalid extended code point '" ++ String.singleton c ++ "'"
  | .noCharacter point => "Invalid character U+" ++ String.ofList (Nat.toDigits 16 point)

/-- The value of a digit; letters are capitals. -/
def digitValue? (c : Char) : Option Nat :=
  if 'A' ≤ c ∧ c ≤ 'Z' then some (c.toNat - 0x41)
  else if '0' ≤ c ∧ c ≤ '9' then some (c.toNat - 0x30 + 26)
  else none

/-- A number, and what follows it. -/
def readNumber (bias place weight value : Nat) : List Char → Except PunycodeFault (Nat × List Char)
  | [] => .error .incomplete
  | c :: rest =>
    match digitValue? c with
    | none => .error (.noDigit c)
    | some digit =>
      let t := threshold place bias
      let value := value + digit * weight
      if digit < t then .ok (value, rest)
      else readNumber bias (place + 1) (weight * (36 - t)) value rest

/-- A number takes up digits. -/
theorem readNumber_length {bias place weight value : Nat} {s : List Char} {r : Nat × List Char}
    (h : readNumber bias place weight value s = .ok r) : r.2.length < s.length := by
  induction s generalizing place weight value with
  | nil => simp [readNumber] at h
  | cons c rest ih =>
    simp only [readNumber] at h
    split at h
    · simp at h
    · split at h
      · simp only [Except.ok.injEq] at h
        subst h
        simp
      · have := ih h
        simp
        omega

/-- The points with one more put in. -/
def putIn (points : List Nat) (place point : Nat) : List Nat :=
  points.take place ++ point :: points.drop place

/-- The code points after the rest of the numbers: `place` is the place after the one that was filled
    last, `point` is the character that was put in. -/
def insertAll (points : List Nat) (place point bias : Nat) (first : Bool) (s : List Char) :
    Except PunycodeFault (List Nat) :=
  if s = [] then .ok points
  else
    match h : readNumber bias 0 1 0 s with
    | .error f => .error f
    | .ok (delta, rest) =>
      have := readNumber_length h
      let total := place + delta
      let count := points.length + 1
      let point := point + total / count
      if 0x10FFFF < point then .error (.noCharacter point)
      else
        let place := total % count
        insertAll (putIn points place point) (place + 1) point (adapt delta first count) false rest
termination_by s.length

/-- Bytes before the last hyphen, if there is one, and those after it. -/
def splitAtLast (bytes : List UInt8) : Option (List UInt8) × List UInt8 :=
  let ending := (bytes.reverse.takeWhile (· ≠ 0x2D)).reverse
  if ending.length = bytes.length then (none, bytes)
  else (some (bytes.take (bytes.length - ending.length - 1)), ending)

/-- The first code point beyond ASCII, and the bias at the start. -/
def firstPoint : Nat := 0x80
def firstBias : Nat := 72

/-- **The code points of bytes.** -/
def decode (bytes : List UInt8) : Except PunycodeFault (List Nat) := do
  let (basic, ending) := splitAtLast bytes
  let base ← (decodeAscii 0 (basic.getD [])).mapError .malformed
  let numbers ← (decodeAscii 0 ending).mapError .malformed
  insertAll (base.map Char.toNat) 0 firstPoint firstBias true (numbers.map Char.toUpper)

/-! ## 3. Writing -/

/-- A digit, in lowercase. -/
def digitChar (n : Nat) : Char := if n < 26 then Char.ofNat (0x61 + n) else Char.ofNat (0x30 + n - 26)

/-- The digits of a number. -/
def writeNumber (fuel bias place n : Nat) : List Char :=
  let t := threshold place bias
  match fuel with
  | 0 => [digitChar n]
  | fuel + 1 =>
    if n < t then [digitChar n]
    else digitChar (t + (n - t) % (36 - t)) :: writeNumber fuel bias (place + 1) ((n - t) / (36 - t))

/-- The state of a writing: the digits so far, the number that grows, the bias, and how many
    characters are written. -/
structure Writing where
  digits : List Char
  delta : Nat
  bias : Nat
  count : Nat

/-- One character passed while those of a point are looked for. -/
def Writing.pass (basic point : Nat) (w : Writing) (c : Nat) : Writing :=
  if c < point then { w with delta := w.delta + 1 }
  else if c = point then
    ⟨w.digits ++ writeNumber w.delta w.bias 0 w.delta, 0,
      adapt w.delta (w.count = basic) (w.count + 1), w.count + 1⟩
  else w

/-- All points beyond a given one that a text holds, in their order. -/
def writeAll (text : List Nat) (basic : Nat) (next : Nat) (w : Writing) : List Nat → Writing
  | [] => w
  | point :: more =>
    let w := { w with delta := w.delta + (point - next) * (w.count + 1) }
    let w := text.foldl (Writing.pass basic point) w
    writeAll text basic (point + 1) { w with delta := w.delta + 1 } more

/-- **The code of text.** -/
def encode (text : List Nat) : List Char :=
  let base := (text.filter (· < firstPoint)).map Char.ofNat
  let points := ((text.filter (firstPoint ≤ ·)).mergeSort (· ≤ ·)).eraseReps
  let w := writeAll text base.length firstPoint ⟨[], 0, firstBias, base.length⟩ points
  (if base.isEmpty then [] else base ++ ['-']) ++ w.digits

end OpenerPolicy.Text.Punycode
