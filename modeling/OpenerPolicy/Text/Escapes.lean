/-
  File:      OpenerPolicy/Text/Escapes.lean
  Subject:   TEXT WITH ESCAPES: a backslash starts an escape, other bytes stand for their numbers.

  An escape tells a code point by octal or hexadecimal digits or by the name of a character, or it is
  one of a few letters for controls. There is a form that knows no escapes but those of four and of
  eight hexadecimal digits. A backslash before anything else stands for itself.

  * `Reading` -- what a backslash and the bytes after it are;
  * `hexEscape`, `nameEscape`, `escape`, `rawEscape` -- the escapes;
  * `decode`, `decodeRaw` -- the code points of bytes in the two forms.
-/
import OpenerPolicy.Text.CharName
import OpenerPolicy.Text.Encoding

namespace OpenerPolicy.Text.Escapes

/-! ## 1. Escapes -/

/-- **What a backslash and the bytes after it are.** -/
inductive Reading where
  /-- Code points; `more` bytes belong to the backslash. -/
  | stands (points : List Nat) (more : Nat)
  /-- No escape; `count` counts the bytes at fault, the backslash among them. -/
  | fault (count : Nat) (reason : String)
  deriving DecidableEq, Repr

/-- The greatest code point. -/
def lastPoint : Nat := 0x10FFFF

/-- The value of a digit. -/
def digitValue? (b : Nat) : Option Nat := hexValue? (Char.ofNat b)

/-- An escape of a fixed number of hexadecimal digits; `after` follows its letter. -/
def hexEscape (width : Nat) (tooFew tooLarge : String) (after : List Nat) : Reading :=
  let digits := ((after.take width).map digitValue?).takeWhile Option.isSome |>.filterMap id
  let point := digits.foldl (fun n d => 16 * n + d) 0
  if digits.length < width then .fault (2 + digits.length) tooFew
  else if lastPoint < point then .fault (2 + width) tooLarge
  else .stands [point] (1 + width)

/-- How many digits an octal escape has at most. -/
def octalDigits : Nat := 3

def isOctal (b : Nat) : Bool := 0x30 ≤ b && b ≤ 0x37

/-- An escape of octal digits. -/
def octalEscape (after : List Nat) : Reading :=
  let digits := (after.take octalDigits).takeWhile isOctal
  .stands [digits.foldl (fun n b => 8 * n + (b - 0x30)) 0] digits.length

def malformedName : String := "malformed \\N character escape"

/-- An escape by name: the name stands in braces. -/
def nameEscape : List Nat → Reading
  | 0x7B :: after =>
    let name := after.takeWhile (· ≠ 0x7D)
    if name.length = after.length ∨ name = [] then .fault (3 + name.length) malformedName
    else
      match pointOfName? (name.map Char.ofNat) with
      | some point => .stands [point] (3 + name.length)
      | none => .fault (4 + name.length) "unknown Unicode character name"
  | _ => .fault 2 malformedName

/-- The bytes that stand for something else after a backslash, by themselves. An end of line is left
    out. -/
def letters : List (Nat × List Nat) :=
  [(0x0A, []), (0x5C, [0x5C]), (0x27, [0x27]), (0x22, [0x22]), (0x61, [0x07]), (0x62, [0x08]),
   (0x66, [0x0C]), (0x6E, [0x0A]), (0x72, [0x0D]), (0x74, [0x09]), (0x76, [0x0B])]

def tooFewOfFour : String := "truncated \\uXXXX escape"
def tooFewOfEight : String := "truncated \\UXXXXXXXX escape"
def tooLarge : String := "illegal Unicode character"

/-- **An escape**, by the bytes after the backslash. -/
def escape : List Nat → Reading
  | [] => .fault 1 "\\ at end of string"
  | b :: after =>
    match letters.lookup b with
    | some points => .stands points 1
    | none =>
      if isOctal b then octalEscape (b :: after)
      else if b = 0x78 then hexEscape 2 "truncated \\xXX escape" tooLarge after
      else if b = 0x75 then hexEscape 4 tooFewOfFour tooLarge after
      else if b = 0x55 then hexEscape 8 tooFewOfEight tooLarge after
      else if b = 0x4E then nameEscape after
      else .stands [0x5C, b] 1

/-- **An escape of the form that knows two of them only.** -/
def rawEscape : List Nat → Reading
  | [] => .stands [0x5C] 0
  | b :: after =>
    if b = 0x75 then hexEscape 4 tooFewOfFour tooLarge after
    else if b = 0x55 then hexEscape 8 tooFewOfEight "\\Uxxxxxxxx out of range" after
    else .stands [0x5C, b] 1

/-! ## 2. Text -/

/-- The code points from some byte on; `pos` is its position, and `skip` bytes belong to an escape that
    is read. -/
def decodeFrom (codec : String) (read : List Nat → Reading) (pos skip : Nat) :
    List Nat → Except DecodeFault (List Nat)
  | [] => .ok []
  | b :: rest =>
    match skip with
    | skip + 1 => decodeFrom codec read (pos + 1) skip rest
    | 0 =>
      if b = 0x5C then
        match read rest with
        | .stands points more => (points ++ ·) <$> decodeFrom codec read (pos + 1) more rest
        | .fault count reason => .error ⟨codec, pos, count, UInt8.ofNat b, reason⟩
      else (b :: ·) <$> decodeFrom codec read (pos + 1) 0 rest

/-- **The code points of bytes with escapes.** Among them may be surrogates. -/
def decode (bytes : List UInt8) : Except DecodeFault (List Nat) :=
  decodeFrom "unicodeescape" escape 0 0 (bytes.map UInt8.toNat)

/-- **The code points of bytes with escapes of two kinds only.** -/
def decodeRaw (bytes : List UInt8) : Except DecodeFault (List Nat) :=
  decodeFrom "rawunicodeescape" rawEscape 0 0 (bytes.map UInt8.toNat)

end OpenerPolicy.Text.Escapes
