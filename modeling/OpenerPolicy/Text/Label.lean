/-
  File:      OpenerPolicy/Text/Label.lean
  Subject:   LABELS: the parts of domain names, in any characters or in ASCII.

  A label beyond ASCII is written as a mark and a code. It is brought into a usual form first, in which
  it has neither capitals nor characters that stand for other ones, so that a label has one code at
  most. A code that is not the one of its label is refused.

  * `prepared` -- a label in its usual form;
  * `toAscii` -- a label in ASCII;
  * `ofAscii` -- the label of ASCII characters, or a `LabelFault`;
  * `decode` -- the code points of bytes that hold labels.
-/
import OpenerPolicy.Text.Case
import OpenerPolicy.Text.LabelTable
import OpenerPolicy.Text.Normal
import OpenerPolicy.Text.Punycode
import OpenerPolicy.Text.Quoted

namespace OpenerPolicy.Text.Label

open Punycode (PunycodeFault)

/-! ## 1. Faults -/

/-- Why bytes hold no labels. -/
inductive LabelFault where
  /-- The bytes are not ASCII. -/
  | malformed (f : DecodeFault)
  /-- A code that stands for nothing. -/
  | noCode (f : PunycodeFault)
  | badCharacter (point : Nat)
  /-- Characters of both directions. -/
  | mixedDirections
  /-- Leftward characters, but not at both ends. -/
  | directionAtEnds
  | badLength
  /-- A label beyond ASCII that starts with the mark of a code. -/
  | marked
  /-- The code of a label that has another one. -/
  | otherCode (given own : List Char)

/-- Bytes between quotes. -/
def quotedBytes (s : List Char) : String :=
  "b" ++ quotedPoints (fun c => 0x20 ≤ c && c < 0x7F) (s.map Char.toNat)

def LabelFault.message : LabelFault → String
  | .malformed f => f.message
  | .noCode f => "decoding with 'punycode' codec failed (UnicodeError: " ++ f.message ++ ")"
  | .badCharacter point => "Invalid character " ++ quotedPoints isPrintable [point]
  | .mixedDirections => "Violation of BIDI requirement 2"
  | .directionAtEnds => "Violation of BIDI requirement 3"
  | .badLength => "label empty or too long"
  | .marked => "Label starts with ACE prefix"
  | .otherCode given own =>
    "('IDNA does not round-trip', " ++ quotedBytes given ++ ", " ++ quotedBytes own ++ ")"

/-! ## 2. The usual form -/

/-- The characters that are left out. -/
def silent : List Nat :=
  [0xAD, 0x34F, 0x1806, 0x180B, 0x180C, 0x180D, 0x200B, 0x200C, 0x200D, 0x2060, 0xFEFF]

def isSilent (c : Nat) : Bool := silent.contains c || (0xFE00 ≤ c && c ≤ 0xFE0F)

/-- A code point without capitals. The letters that have no lowercase form of their own are replaced,
    too: the sharp s, the final sigma and the iota below. -/
def small (c : Nat) : List Nat :=
  if c = 0xDF then [0x73, 0x73]
  else if c = 0x3C2 then [0x3C3]
  else if c = 0x345 then [0x3B9]
  else if isSurrogate c then [c]
  else (lowerChar (Char.ofNat c)).map Char.toNat

/-- A code point without capitals, even among the characters that it stands for. -/
def folded (c : Nat) : List Nat := (Normal.takenApart (small c)).flatMap small

def isLeftward (c : Nat) : Bool := within c leftwardRanges
def isRightward (c : Nat) : Bool := within c rightwardRanges

/-- Leftward characters stand without rightward ones, and at both ends. -/
def checkDirections (s : List Nat) : Except LabelFault Unit :=
  if s.any isLeftward then
    if s.any isRightward then .error .mixedDirections
    else if s.head?.any isLeftward && s.getLast?.any isLeftward then .ok ()
    else .error .directionAtEnds
  else .ok ()

/-- **A label in its usual form.** -/
def prepared (s : List Nat) : Except LabelFault (List Nat) := do
  let s := Normal.normalized ((s.filter (!isSilent ·)).flatMap folded)
  match s.find? (within · unheldRanges) with
  | some c => .error (.badCharacter c)
  | none => checkDirections s
  return s

/-! ## 3. Codes -/

/-- The mark of a code. -/
def codeMark : List Char := ['x', 'n', '-', '-']

def isAscii (s : List Nat) : Bool := s.all (· < 0x80)

/-- A label has at least one character and at most 63. -/
def sized (s : List Char) : Except LabelFault (List Char) :=
  if 0 < s.length ∧ s.length < 64 then .ok s else .error .badLength

/-- **A label in ASCII.** -/
def toAscii (s : List Nat) : Except LabelFault (List Char) := do
  if isAscii s then sized (s.map Char.ofNat)
  else
    let s ← prepared s
    if isAscii s then sized (s.map Char.ofNat)
    else if (codeMark.map Char.toNat).isPrefixOf s then .error .marked
    else sized (codeMark ++ Punycode.encode s)

/-- **The label of ASCII characters.** -/
def ofAscii (s : List Char) : Except LabelFault (List Nat) := do
  if codeMark.isPrefixOf s then
    let label ← (Punycode.decode ((s.drop codeMark.length).map fun c => UInt8.ofNat c.toNat)).mapError
      .noCode
    let own ← toAscii label
    if s.map Char.toLower = own then return label else .error (.otherCode s own)
  else return s.map Char.toNat

/-- The labels of ASCII pieces, with full stops between them. -/
def joined : List (List Char) → Except LabelFault (List Nat)
  | [] => .ok []
  | [s] => ofAscii s
  | s :: rest => do
    let first ← ofAscii s
    let more ← joined rest
    return first ++ 0x2E :: more

/-- **The code points of bytes that hold labels**, with full stops between them. -/
def decode (bytes : List UInt8) : Except LabelFault (List Nat) := do
  let s ← (decodeAscii 0 bytes).mapError .malformed
  joined (pieces '.' s)

end OpenerPolicy.Text.Label
