/-
  File:      OpenerPolicy/Text/Chinese.lean
  Subject:   CHINESE TEXT: THE GB FAMILY AND BIG5.

  In most of these encodings the bytes below 128 are ASCII, and two bytes, the first of them from 128
  on, make a character. GB 18030 has characters of four bytes besides, in the order of their numbers,
  and HZ stays within ASCII altogether: marks switch between ASCII and pairs.

  * `gb2312Scheme`, `gbkScheme`, `gb18030Scheme`, `hzScheme` -- the GB family;
  * `big5Scheme`, `cp950Scheme`, `big5HkscsScheme` -- Big5;
  * `fourByteChar?` -- the characters of four bytes.
-/
import OpenerPolicy.Text.Chart.Big5
import OpenerPolicy.Text.Chart.Gb2312
import OpenerPolicy.Text.Chart.Gbk
import OpenerPolicy.Text.Chart.Hkscs
import OpenerPolicy.Text.Multibyte

namespace OpenerPolicy.Text

/-! ## 1. Pairs -/

/-- ASCII, and pairs of bytes. -/
def pairsPiece (find : Nat → Nat → Option (List Char)) (b : Nat) (rest : List Nat) : Piece Unit :=
  if b < 0x80 then .own b
  else
    match rest with
    | [] => .incomplete
    | second :: _ => .ofChars? (find b second) 1

/-- An encoding of ASCII and pairs of bytes. -/
def pairsScheme (name : String) (find : Nat → Nat → Option (List Char)) : Scheme Unit :=
  ⟨name, (), fun _ => pairsPiece find⟩

/-- The code of two bytes of which both are 128 above the row and the column. -/
def raisedCode (first second : Nat) : Nat := pairCode (first - 0x80) (second - 0x80)

/-! ## 2. The GB family -/

def gb2312Char? (first second : Nat) : Option Char := gb2312.char? (raisedCode first second)

def gbkChar? (first second : Nat) : Option Char :=
  (gbkAdditions.char? (pairCode first second)).or (gb2312Char? first second)

def gb18030Char? (first second : Nat) : Option Char :=
  (gbkChar? first second).or (gb18030Additions.char? (pairCode first second))

def gb2312Scheme : Scheme Unit := pairsScheme "gb2312" fun a b => (gb2312Char? a b).map ([·])

def gbkScheme : Scheme Unit := pairsScheme "gbk" fun a b => (gbkChar? a b).map ([·])

/-- The number of the character at a place in the order of four bytes. -/
def pointAt (place : Nat) : List (Nat × Nat) → Nat
  | [] => 0
  | [(first, point)] => point + (place - first)
  | (first, point) :: (next, point') :: rest =>
    if place < next then point + (place - first) else pointAt place ((next, point') :: rest)

/-- How many characters up to `0xFFFF` take four bytes. -/
def fourByteCount : Nat := 39420

/-- **The character of four bytes.** The second and the fourth are digits. The first characters are
    those up to `0xFFFF` that no two bytes stand for; those from `0x10000` on have places of their
    own. -/
def fourByteChar? (a b c d : Nat) : Option Char :=
  if 0x81 ≤ a ∧ a ≤ 0xFE ∧ 0x81 ≤ c ∧ c ≤ 0xFE ∧ 0x30 ≤ d ∧ d ≤ 0x39 then
    let place := (((a - 0x81) * 10 + (b - 0x30)) * 126 + (c - 0x81)) * 10 + (d - 0x30)
    let beyond := 15 * 12600
    if place < fourByteCount then some (Char.ofNat (pointAt place gb18030Starts))
    else if beyond ≤ place ∧ place - beyond < 0x100000 then
      some (Char.ofNat (0x10000 + (place - beyond)))
    else none
  else none

/-- GB 18030: a digit as the second byte tells four bytes. -/
def gb18030Piece (b : Nat) (rest : List Nat) : Piece Unit :=
  if b < 0x80 then .own b
  else
    match rest with
    | [] => .incomplete
    | second :: rest =>
      if 0x30 ≤ second ∧ second ≤ 0x39 then
        match rest with
        | third :: fourth :: _ => .ofChar? (fourByteChar? b second third fourth) 3
        | _ => .incomplete
      else .ofChar? (gb18030Char? b second) 1

def gb18030Scheme : Scheme Unit := ⟨"gb18030", (), fun _ => gb18030Piece⟩

/-- HZ; `inPairs` says that pairs are read. A tilde starts a mark, or a tilde that is meant. -/
def hzPiece (inPairs : Bool) (b : Nat) (rest : List Nat) : Piece Bool :=
  if b = 0x7E then
    match inPairs, rest with
    | _, [] => .incomplete
    | false, 0x7E :: _ => .chars ['~'] 1 false
    | false, 0x7B :: _ => .chars [] 1 true
    | false, 0x0A :: _ => .chars [] 1 false
    | true, 0x7D :: _ => .chars [] 1 false
    | _, _ => .illegal 1
  else if 0x80 ≤ b then .illegal 1
  else if inPairs then
    match rest with
    | [] => .incomplete
    | second :: _ =>
      match gb2312.char? (pairCode b second) with
      | some c => .chars [c] 1 true
      | none => .illegal 1
  else .chars [Char.ofNat b] 0 false

def hzScheme : Scheme Bool := ⟨"hz", false, hzPiece⟩

/-! ## 3. Big5 -/

def big5Char? (first second : Nat) : Option Char := big5.char? (pairCode first second)

def cp950Char? (first second : Nat) : Option Char :=
  (cp950Additions.char? (pairCode first second)).or (big5Char? first second)

/-- Whether the supplement takes the place of Big5. -/
def isSupplemental (first second : Nat) : Bool :=
  0xC6A1 ≤ pairCode first second && first ≤ 0xC8

/-- The characters of two bytes under Big5 with the supplement. -/
def big5HkscsChars? (first second : Nat) : Option (List Char) :=
  let own := if isSupplemental first second then none else big5Char? first second
  match own.or (hkscs.char? (pairCode first second)) with
  | some c => some [c]
  | none => hkscsPairs.lookup (pairCode first second)

def big5Scheme : Scheme Unit := pairsScheme "big5" fun a b => (big5Char? a b).map ([·])

def cp950Scheme : Scheme Unit := pairsScheme "cp950" fun a b => (cp950Char? a b).map ([·])

def big5HkscsScheme : Scheme Unit := pairsScheme "big5hkscs" big5HkscsChars?

end OpenerPolicy.Text
