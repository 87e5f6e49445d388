/-
  File:      OpenerPolicy/Text/Iso2022.lean
  Subject:   ISO 2022: text that names its character sets as it goes on.

  All bytes are below 128. An escape sequence designates a character set to one of three places. The
  first place is in use at the beginning; where shifts are known, they lead to the second one and back.
  A single character can be taken from the third one. Other escape sequences are left in the text.

  * `CharSet`, `CharSet.read` -- the sets, and the characters of their bytes;
  * `Variant` -- the sets that an encoding knows, by the marks in escape sequences;
  * `escapeEnd` -- where an escape sequence ends;
  * `Place`, `designation?` -- which set an escape sequence designates, and to which place;
  * `iso2022Scheme` -- the encoding of a variant.
-/
import OpenerPolicy.Text.Japanese
import OpenerPolicy.Text.Korean

namespace OpenerPolicy.Text.Iso2022

/-! ## 1. Character sets -/

inductive CharSet where
  | ascii
  | latin1
  | greek
  | roman
  | kana
  | jisx0208
  | jisx0212
  | jisx0213First (e : Edition)
  | jisx0213Second (e : Edition)
  | ksx1001
  | gb2312
  deriving DecidableEq, Repr

/-- How many bytes a character of a set takes up. -/
def CharSet.width : CharSet → Nat
  | .ascii | .latin1 | .greek | .roman | .kana => 1
  | _ => 2

/-- **The characters of a code of a set.** Latin-1 and Greek are sets for the third place alone. -/
def CharSet.read (set : CharSet) (code : Nat) : Option (List Char) :=
  match set with
  | .ascii => some [Char.ofNat code]
  | .latin1 | .greek => none
  | .roman => (roman? code).map ([·])
  | .kana => (narrowKana? (code + 0x80)).map ([·])
  | .jisx0208 => (Text.jisx0208.char? code).map ([·])
  | .jisx0212 => (Text.jisx0212.char? code).map ([·])
  | .jisx0213First e =>
    match firstPlane e [] code with
    | .holds s => some s
    | _ => none
  | .jisx0213Second e => (secondPlane? e code).map ([·])
  | .ksx1001 => (Text.ksx1001.char? code).map ([·])
  | .gb2312 => (Text.gb2312.char? code).map ([·])

/-- The Greek characters of ISO 8859-7 from 160 on that are neither those of Latin-1 nor Greek ones
    in their usual order. -/
def greekSigns : List (Nat × Char) := [(0xA1, '\u2018'), (0xA2, '\u2019'), (0xAF, '\u2015')]

/-- The bytes from 160 on whose characters Greek shares with Latin-1. -/
def greekShared : List Nat :=
  [0xA0, 0xA3, 0xA6, 0xA7, 0xA8, 0xA9, 0xAB, 0xAC, 0xAD, 0xB0, 0xB1, 0xB2, 0xB3, 0xB7, 0xBB, 0xBD]

/-- The character of a byte of ISO 8859-7. -/
def greek? (b : Nat) : Option Char :=
  if b < 0xA0 ∨ b ∈ greekShared then some (Char.ofNat b)
  else if 0xB4 ≤ b ∧ b ≤ 0xFE ∧ b ≠ 0xD2 then some (Char.ofNat (0x2D0 + b))
  else greekSigns.lookup b

/-- The character of a byte from the third place, or none; only some sets can be used there. -/
def CharSet.single (set : CharSet) (b : Nat) : Option (Option Char) :=
  match set with
  | .ascii => some (ascii? b)
  | .latin1 => some (if b < 0x80 then some (Char.ofNat (b + 0x80)) else none)
  | .greek => some (greek? (if b < 0x80 then b + 0x80 else b - 0x80))
  | _ => none

/-! ## 2. Variants -/

/-- A mark in an escape sequence: whether the characters take two bytes, and the final byte. -/
structure Mark where
  wide : Bool
  final : Char
  deriving DecidableEq, Repr

/-- An encoding of the family: its name, its sets, and whether it knows shifts and the third place. -/
structure Variant where
  name : String
  sets : List (Mark × CharSet)
  shifts : Bool
  third : Bool
  deriving DecidableEq, Repr

/-- A set with its final byte: of characters of two bytes, and of one. -/
def wideSet (set : CharSet) (final : Char) : Mark × CharSet := (⟨true, final⟩, set)
def narrowSet (set : CharSet) (final : Char) : Mark × CharSet := (⟨false, final⟩, set)

/-- JIS X 0208 in both editions, and Roman characters. -/
def basicSets : List (Mark × CharSet) :=
  [wideSet .jisx0208 'B', narrowSet .roman 'J', wideSet .jisx0208 '@']

def jp : Variant := ⟨"iso2022_jp", basicSets, false, false⟩

def jp1 : Variant := ⟨"iso2022_jp_1", basicSets ++ [wideSet .jisx0212 'D'], false, false⟩

def jp2 : Variant :=
  ⟨"iso2022_jp_2",
    basicSets ++ [wideSet .jisx0212 'D', wideSet .ksx1001 'C', wideSet .gb2312 'A',
      narrowSet .latin1 'A', narrowSet .greek 'F'], false, true⟩

def jp3 : Variant :=
  ⟨"iso2022_jp_3", [wideSet .jisx0208 'B', wideSet (.jisx0213First .former) 'O',
    wideSet (.jisx0213Second .former) 'P'], false, false⟩

def jp2004 : Variant :=
  ⟨"iso2022_jp_2004", [wideSet .jisx0208 'B', wideSet (.jisx0213First .current) 'Q',
    wideSet (.jisx0213Second .current) 'P'], false, false⟩

def jpExt : Variant :=
  ⟨"iso2022_jp_ext", basicSets ++ [wideSet .jisx0212 'D', narrowSet .kana 'I'], false, false⟩

def kr : Variant := ⟨"iso2022_kr", [wideSet .ksx1001 'C'], true, false⟩

/-- The set of a mark. ASCII is known to all variants. -/
def Variant.set? (v : Variant) (mark : Mark) : Option CharSet :=
  if mark = ⟨false, 'B'⟩ then some .ascii else v.sets.lookup mark

/-! ## 3. Escape sequences -/

def escape : Nat := 0x1B

/-- Whether a byte ends an escape sequence. -/
def isFinal (b : Nat) : Bool := 0x40 ≤ b && b ≤ 0x5A

/-- Whether a byte after an escape starts a sequence that is looked at. -/
def isIntroducer (b : Nat) : Bool := [0x28, 0x29, 0x24, 0x2E, 0x26].contains b

/-- Where an escape sequence ends. -/
inductive EscapeEnd where
  | after (count : Nat)
  | unfinished
  | tooLong
  deriving DecidableEq, Repr

/-- No escape sequence is as long as this. -/
def escapeLimit : Nat := 16

/-- **The end of an escape sequence**, `count` bytes of which are read; `skip` bytes belong to a prefix
    that names an edition. Such a prefix, and the escape after it, end nothing (if shifts are
    unknown). -/
def escapeEnd (prefixes : Bool) (count skip : Nat) : List Nat → EscapeEnd
  | [] => if count + skip < escapeLimit then .unfinished else .tooLong
  | b :: rest =>
    match skip with
    | skip + 1 => escapeEnd prefixes (count + 1) skip rest
    | 0 =>
      if escapeLimit ≤ count then .tooLong
      else if isFinal b then .after (count + 1)
      else if prefixes ∧ b = 0x26 ∧ rest.head? = some 0x40 then
        escapeEnd prefixes (count + 1) 2 rest
      else escapeEnd prefixes (count + 1) 0 rest

/-- The places that sets are designated to. -/
inductive Place where
  | first
  | second
  | third
  deriving DecidableEq, Repr

/-- **What the bytes of an escape sequence after the escape say**: a place and the mark of a set. -/
def designation? (third prefixes : Bool) : List Nat → Option (Place × Mark)
  | [0x24, final] => some (.first, ⟨true, Char.ofNat final⟩)
  | [0x28, final] => some (.first, ⟨false, Char.ofNat final⟩)
  | [0x29, final] => some (.second, ⟨false, Char.ofNat final⟩)
  | [0x2E, final] => if third then some (.third, ⟨false, Char.ofNat final⟩) else none
  | [0x24, 0x28, final] => some (.first, ⟨true, Char.ofNat final⟩)
  | [0x24, 0x29, final] => some (.second, ⟨true, Char.ofNat final⟩)
  | [_, _, 0x1B, 0x24, 0x42] => if prefixes then some (.first, ⟨true, 'B'⟩) else none
  | _ => none

/-! ## 4. Text -/

/-- The sets at the three places, whether the second one is in use, and whether an escape sequence
    that is left in the text is being read. -/
structure State where
  first : CharSet
  second : CharSet
  third : CharSet
  shifted : Bool
  through : Bool
  deriving DecidableEq, Repr

def State.initial : State := ⟨.ascii, .ascii, .ascii, false, false⟩

def State.designate (s : State) (place : Place) (set : CharSet) : State :=
  match place with
  | .first => { s with first := set }
  | .second => { s with second := set }
  | .third => { s with third := set }

/-- The set in use. -/
def State.inUse (s : State) : CharSet := if s.shifted then s.second else s.first

/-- A byte as the character of its number. -/
def keep (s : State) (b : Nat) : Piece State := .chars [Char.ofNat b] 0 s

/-- What an escape sequence does; `rest` follows the escape. -/
def escapePiece (v : Variant) (s : State) (rest : List Nat) : Piece State :=
  match escapeEnd (!v.shifts) 1 0 rest with
  | .unfinished => .incomplete
  | .tooLong => .illegal 1
  | .after count =>
    match designation? v.third (!v.shifts) (rest.take (count - 1)) with
    | none => .illegal count
    | some (place, mark) =>
      match v.set? mark with
      | none => .illegal count
      | some set => .chars [] (count - 1) (s.designate place set)

/-- A single character from the third place. -/
def singlePiece (s : State) (b : Nat) : Piece State :=
  match s.third.single b with
  | none => .unusableSet
  | some none => .illegal 3
  | some (some c) => .chars [c] 2 s

/-- A character of the set in use. -/
def setPiece (s : State) (b : Nat) (rest : List Nat) : Piece State :=
  if s.inUse.width = 1 then
    match s.inUse.read b with
    | some cs => .chars cs 0 s
    | none => .illegal 1
  else
    match rest with
    | [] => .incomplete
    | second :: _ =>
      match s.inUse.read (pairCode b second) with
      | some cs => .chars cs 1 s
      | none => .illegal 2

/-- What a place holds. -/
def piece (v : Variant) (s : State) (b : Nat) (rest : List Nat) : Piece State :=
  if s.through then keep { s with through := !isFinal b } b
  else if b = escape then
    match rest with
    | [] => .incomplete
    | second :: rest' =>
      if isIntroducer second then escapePiece v s rest
      else if v.third ∧ second = 0x4E then
        match rest' with
        | [] => .incomplete
        | third :: _ => singlePiece s third
      else keep { s with through := true } b
  else if b = 0x0A then keep { s with shifted := false } b
  else if v.shifts ∧ b = 0x0F then .chars [] 0 { s with shifted := false }
  else if v.shifts ∧ b = 0x0E then .chars [] 0 { s with shifted := true }
  else if b < 0x20 then keep s b
  else if 0x80 ≤ b then .illegal 1
  else setPiece s b rest

/-- **The encoding of a variant.** -/
def iso2022Scheme (v : Variant) : Scheme State := ⟨v.name, .initial, piece v⟩

end OpenerPolicy.Text.Iso2022
