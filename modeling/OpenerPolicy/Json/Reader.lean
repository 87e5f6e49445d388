/-
  File:      OpenerPolicy/Json/Reader.lean
  Subject:   READING JSON DOCUMENTS, WITH THE PLACE OF THE FIRST FAULT.

  The grammar is that of JSON with three more numbers (`NaN`, `Infinity`, `-Infinity`) and with
  surrogate escapes that need not come in pairs. Of two members with one name the later one counts.
  A fault is reported where the reader stands when it can go on in no way:

  * `Cause`, `ReadFault` -- what went wrong, and where (line, column and offset in characters);
  * `scanText`, `scanNumber` -- the two kinds of token with an inner structure;
  * `scanValue`, `scanItems`, `scanMembers` -- values, and what stands inside brackets and braces;
  * `Json.parse` -- a whole document.

  A document is a list of code points, since text that some encodings give holds surrogates that stand
  alone. The scanners work on the characters still to be read, and a fault inside them carries their
  number; `Json.parse` turns it into a place in the document.
-/
import OpenerPolicy.Json.Value
import OpenerPolicy.Number.Decimal
import OpenerPolicy.Text.Hex

namespace OpenerPolicy.Json

open OpenerPolicy.Text OpenerPolicy.Number

/-! ## 1. Faults -/

/-- What can be wrong with a document. -/
inductive Cause where
  | valueExpected
  | nameExpected
  | colonExpected
  | commaExpected
  | extraData
  | stringNotClosed
  | controlCharacter
  | unknownEscape
  | badUnicodeEscape
  | byteOrderMark
  deriving DecidableEq, Repr

def Cause.message : Cause → String
  | .valueExpected => "Expecting value"
  | .nameExpected => "Expecting property name enclosed in double quotes"
  | .colonExpected => "Expecting ':' delimiter"
  | .commaExpected => "Expecting ',' delimiter"
  | .extraData => "Extra data"
  | .stringNotClosed => "Unterminated string starting at"
  | .controlCharacter => "Invalid control character at"
  | .unknownEscape => "Invalid \\escape"
  | .badUnicodeEscape => "Invalid \\uXXXX escape"
  | .byteOrderMark => "Unexpected UTF-8 BOM (decode using utf-8-sig)"

/-- Why a document is refused: a fault at a place, or an integer of more digits than are read. -/
inductive ReadFault where
  | misplaced (cause : Cause) (line column offset : Nat)
  | longInteger (digits : Nat)
  deriving DecidableEq, Repr

def ReadFault.message : ReadFault → String
  | .misplaced cause line column offset =>
    s!"{cause.message}: line {line} column {column} (char {offset})"
  | .longInteger digits => tooManyDigits digits

/-- A fault with `left` characters still to be read. -/
inductive ScanFault where
  | stuck (cause : Cause) (left : Nat)
  | longInteger (digits : Nat)

def stuckAt (cause : Cause) (s : List Nat) : ScanFault := .stuck cause s.length

/-! ## 2. Strings

The code points that have a meaning of their own in the grammar go by names. -/

namespace Sign

@[match_pattern] abbrev quote : Nat := 0x22
@[match_pattern] abbrev backslash : Nat := 0x5C
@[match_pattern] abbrev letterU : Nat := 0x75
@[match_pattern] abbrev plus : Nat := 0x2B
@[match_pattern] abbrev comma : Nat := 0x2C
@[match_pattern] abbrev minus : Nat := 0x2D
@[match_pattern] abbrev point : Nat := 0x2E
@[match_pattern] abbrev zero : Nat := 0x30
@[match_pattern] abbrev colon : Nat := 0x3A
@[match_pattern] abbrev openBracket : Nat := 0x5B
@[match_pattern] abbrev closeBracket : Nat := 0x5D
@[match_pattern] abbrev openBrace : Nat := 0x7B
@[match_pattern] abbrev closeBrace : Nat := 0x7D

end Sign

/-- The value of four hexadecimal digits. -/
def hex4? (a b c d : Nat) : Option Nat := do
  let a ← hexValue? (Char.ofNat a)
  let b ← hexValue? (Char.ofNat b)
  let c ← hexValue? (Char.ofNat c)
  let d ← hexValue? (Char.ofNat d)
  return ((a * 16 + b) * 16 + c) * 16 + d

/-- The character a backslash and a letter stand for. -/
def simpleEscape? (c : Nat) : Option Nat :=
  match Char.ofNat c with
  | '"' => some '"'.toNat
  | '\\' => some '\\'.toNat
  | '/' => some '/'.toNat
  | 'b' => some 8
  | 'f' => some 12
  | 'n' => some 10
  | 'r' => some 13
  | 't' => some 9
  | _ => none

/-- Whether an escape by number comes next. -/
def startsNumbered : List Nat → Bool
  | Sign.backslash :: Sign.letterU :: _ => true
  | _ => false

/-- The unit of an escape before the points of what follows it: the halves of a pair become one
    point, if the second one comes from an escape too. -/
def attach (unit : Nat) (following points : List Nat) : List Nat :=
  match points with
  | low :: more =>
    if startsNumbered following && isHighSurrogate unit && isLowSurrogate low then
      joinSurrogates unit low :: more
    else unit :: points
  | [] => [unit]

/-- **The rest of a string**, up to and with its closing quote: what its characters and escapes
    stand for, and what follows. `opening` is the number of characters from the opening quote on. An
    escape by number needs a character after its digits, since the string cannot be closed
    otherwise. -/
def scanString (opening : Nat) : List Nat → Except ScanFault (List Nat × List Nat)
  | [] => .error (.stuck .stringNotClosed opening)
  | Sign.quote :: rest => .ok ([], rest)
  | Sign.backslash :: Sign.letterU :: rest =>
    match rest with
    | a :: b :: c :: d :: tail =>
      match if tail.isEmpty then none else hex4? a b c d with
      | none => .error (stuckAt .badUnicodeEscape (Sign.letterU :: rest))
      | some unit => (fun (points, after) => (attach unit tail points, after)) <$> scanString opening tail
    | _ => .error (stuckAt .badUnicodeEscape (Sign.letterU :: rest))
  | [Sign.backslash] => .error (.stuck .stringNotClosed opening)
  | Sign.backslash :: c :: rest =>
    match simpleEscape? c with
    | none => .error (stuckAt .unknownEscape (Sign.backslash :: c :: rest))
    | some point => (fun (points, after) => (point :: points, after)) <$> scanString opening rest
  | c :: rest =>
    if c < 0x20 then .error (stuckAt .controlCharacter (c :: rest))
    else (fun (points, after) => (c :: points, after)) <$> scanString opening rest

/-- A string after its opening quote, as a value of `Text`. -/
def scanText (opening : Nat) (s : List Nat) : Except ScanFault (Text × List Nat) :=
  (fun (points, after) => (.ofPoints points, after)) <$> scanString opening s

/-! ## 3. Numbers -/

def isDigit (c : Nat) : Bool := 0x30 ≤ c && c ≤ 0x39

/-- The value of decimal digits. -/
def digitsValue (digits : List Nat) : Nat := digits.foldl (fun n c => 10 * n + (c - 0x30)) 0

/-- The digits of an integer part: a single zero, or digits that start with none. -/
def integerPart? : List Nat → Option (List Nat × List Nat)
  | Sign.zero :: rest => some ([Sign.zero], rest)
  | c :: rest => if isDigit c then some (c :: rest.takeWhile isDigit, rest.dropWhile isDigit) else none
  | [] => none

/-- The digits after a point, if there are any; else the point is not part of the number. -/
def fractionPart (s : List Nat) : List Nat × List Nat :=
  match s with
  | Sign.point :: rest =>
    let digits := rest.takeWhile isDigit
    if digits.isEmpty then ([], s) else (digits, rest.dropWhile isDigit)
  | _ => ([], s)

/-- A signed exponent, if it has digits; else its letter is not part of the number. -/
def exponentPart (s : List Nat) : Option Int × List Nat :=
  match s with
  | c :: rest =>
    if c = 'e'.toNat || c = 'E'.toNat then
      let (negative, unsigned) := match rest with
        | Sign.minus :: more => (true, more)
        | Sign.plus :: more => (false, more)
        | _ => (false, rest)
      let digits := unsigned.takeWhile isDigit
      if digits.isEmpty then (none, s)
      else
        let value : Int := digitsValue digits
        (some (if negative then -value else value), unsigned.dropWhile isDigit)
    else (none, s)
  | [] => (none, s)

/-- **A number**: an integer, or a double if it has a fraction or an exponent. None if there is no
    number here. -/
def scanNumber (s : List Nat) : Option (Except ScanFault (Json × List Nat)) :=
  let (negative, unsigned) := match s with
    | Sign.minus :: rest => (true, rest)
    | _ => (false, s)
  match integerPart? unsigned with
  | none => none
  | some (whole, afterWhole) =>
    let (fraction, afterFraction) := fractionPart afterWhole
    let (exponent, after) := exponentPart afterFraction
    if fraction.isEmpty && exponent.isNone then
      if maxIntegerDigits < whole.length then some (.error (.longInteger whole.length))
      else
        let value : Int := digitsValue whole
        some (.ok (.int (if negative then -value else value), after))
    else
      let digits := whole ++ fraction
      let power : Int := exponent.getD 0 - fraction.length
      some (.ok (.float (.ofDecimal negative (digitsValue digits)
        (digits.dropWhile (· = Sign.zero)).length power), after))

/-! ## 4. Values -/

def isBlank (c : Nat) : Bool := c = 0x20 || c = 0x09 || c = 0x0A || c = 0x0D

def skipBlank (s : List Nat) : List Nat := s.dropWhile isBlank

/-- The words that stand for a value. -/
def words : List (List Nat × Json) :=
  [(points "null", .null), (points "true", .bool true), (points "false", .bool false),
   (points "NaN", .float .nan), (points "Infinity", .float (.infinite false)),
   (points "-Infinity", .float (.infinite true))]

/-- The word at the start of the characters, and what follows. -/
def scanWord (s : List Nat) : Option (Json × List Nat) :=
  words.findSome? fun (word, value) =>
    if word.isPrefixOf s then some (value, s.drop word.length) else none

mutual

/-- **A value** at the start of the characters, and what follows. Every call below spends one unit
    of `fuel`; no document needs more than two for each of its characters. -/
def scanValue (fuel : Nat) (s : List Nat) : Except ScanFault (Json × List Nat) :=
  match fuel, s with
  | 0, _ => .error (stuckAt .valueExpected s)
  | _ + 1, Sign.quote :: rest => (fun (t, after) => (.text t, after)) <$> scanText s.length rest
  | fuel + 1, Sign.openBracket :: rest =>
    match skipBlank rest with
    | Sign.closeBracket :: after => .ok (.list [], after)
    | inner => (fun (items, after) => (.list items, after)) <$> scanItems fuel inner
  | fuel + 1, Sign.openBrace :: rest =>
    match skipBlank rest with
    | Sign.closeBrace :: after => .ok (.members [], after)
    | inner =>
      (fun (fields, after) => (.members (Keyed.ofList fields), after)) <$> scanMembers fuel inner
  | _ + 1, _ =>
    match scanWord s with
    | some found => .ok found
    | none => (scanNumber s).getD (.error (stuckAt .valueExpected s))

/-- The items of a list up to and with the closing bracket. -/
def scanItems (fuel : Nat) (s : List Nat) : Except ScanFault (List Json × List Nat) :=
  match fuel with
  | 0 => .error (stuckAt .valueExpected s)
  | fuel + 1 => do
    let (item, after) ← scanValue fuel s
    match skipBlank after with
    | Sign.closeBracket :: rest => .ok ([item], rest)
    | Sign.comma :: rest => (fun (items, after) => (item :: items, after)) <$> scanItems fuel (skipBlank rest)
    | other => .error (stuckAt .commaExpected other)

/-- The members of an object up to and with the closing brace. -/
def scanMembers (fuel : Nat) (s : List Nat) : Except ScanFault (List (Text × Json) × List Nat) :=
  match fuel, s with
  | 0, _ => .error (stuckAt .valueExpected s)
  | fuel + 1, Sign.quote :: rest => do
    let (name, afterName) ← scanText s.length rest
    match skipBlank afterName with
    | Sign.colon :: beforeValue =>
      let (value, after) ← scanValue fuel (skipBlank beforeValue)
      let field := (name, value)
      match skipBlank after with
      | Sign.closeBrace :: rest => .ok ([field], rest)
      | Sign.comma :: rest =>
        (fun (fields, after) => (field :: fields, after)) <$> scanMembers fuel (skipBlank rest)
      | other => .error (stuckAt .commaExpected other)
    | other => .error (stuckAt .colonExpected other)
  | _ + 1, _ => .error (stuckAt .nameExpected s)

end

/-! ## 5. Documents -/

/-- Line and column of the character after `before`, both counted from one. -/
def placeAfter (before : List Nat) : Nat × Nat :=
  before.foldl (fun (line, column) c => if c = 0x0A then (line + 1, 1) else (line, column + 1)) (1, 1)

def ScanFault.locate (document : List Nat) : ScanFault → ReadFault
  | .longInteger digits => .longInteger digits
  | .stuck cause left =>
    let offset := document.length - left
    let (line, column) := placeAfter (document.take offset)
    .misplaced cause line column offset

/-- A value with blanks around it and nothing else. -/
def scanDocument (document : List Nat) : Except ScanFault Json :=
  match document with
  | 0xFEFF :: _ => .error (stuckAt .byteOrderMark document)
  | _ => do
    let (value, after) ← scanValue (2 * document.length + 2) (skipBlank document)
    match skipBlank after with
    | [] => .ok value
    | extra => .error (stuckAt .extraData extra)

/-- **The value of a document, or its first fault.** -/
def parse (document : List Nat) : Except ReadFault Json :=
  (scanDocument document).mapError (·.locate document)

end OpenerPolicy.Json
