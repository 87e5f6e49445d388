/-
  File:      OpenerPolicy/Text/Japanese.lean
  Subject:   JAPANESE TEXT: EUC-JP, SHIFT JIS AND JIS X 0213.

  The character sets are charts of rows and columns. EUC raises both above 127; Shift JIS folds two
  rows into one first byte, which leaves room for narrow kana of a single byte. JIS X 0213 extends the
  first chart and adds a second plane; it has two editions.

  * `firstPlane`, `secondPlane?` -- the planes of JIS X 0213, by code;
  * `eucJpScheme`, `eucJis0213Scheme` -- EUC;
  * `rowColumn?` -- the row and the column of two folded bytes;
  * `shiftJisScheme`, `cp932Scheme`, `shiftJis0213Scheme` -- Shift JIS.
-/
import OpenerPolicy.Text.Chart.Cp932
import OpenerPolicy.Text.Chart.Jisx0208
import OpenerPolicy.Text.Chart.Jisx0212
import OpenerPolicy.Text.Chart.Jisx0213
import OpenerPolicy.Text.Chinese

namespace OpenerPolicy.Text

/-! ## 1. Character sets -/

/-- The editions of JIS X 0213. -/
inductive Edition where
  /-- The one of the year 2000. -/
  | former
  /-- The one of the year 2004. -/
  | current
  deriving DecidableEq, Repr

/-- What is found under a row and a column of the first plane. -/
inductive Cell where
  | holds (s : List Char)
  | empty
  /-- Filled by the current edition only. -/
  | later
  deriving DecidableEq, Repr

/-- The codes that the current edition adds to the first plane. -/
def laterCodes : List Nat :=
  [0x2E21, 0x2F7E, 0x4F54, 0x4F7E, 0x7427, 0x7E7A, 0x7E7B, 0x7E7C, 0x7E7D, 0x7E7E]

/-- What the first plane of JIS X 0213 has under a code; some encodings have characters of their own
    in its place. -/
def firstPlane (e : Edition) (replaced : List (Nat × Char)) (code : Nat) : Cell :=
  if e = .former ∧ code ∈ laterCodes then .later
  else
    match (replaced.lookup code).or ((jisx0208.char? code).or (jisx0213First.char? code)) with
    | some c => .holds [c]
    | none =>
      match jisx0213Pairs.lookup code with
      | some s => .holds s
      | none => .empty

/-- The characters of the second plane. The former edition has another form of one of them. -/
def secondPlane? (e : Edition) (code : Nat) : Option Char :=
  if e = .former ∧ code = 0x7D3B then some '\u9b1d' else jisx0213Second.char? code

/-- The piece of a code of the first plane that takes two bytes. -/
def Cell.piece : Cell → Piece Unit
  | .holds s => .chars s 1 ()
  | .empty => .illegal 1
  | .later => .illegal 2

/-- A narrow kana, by its byte. -/
def narrowKana? (b : Nat) : Option Char :=
  if 0xA1 ≤ b ∧ b ≤ 0xDF then some (Char.ofNat (0xFEC0 + b)) else none

/-- The Roman characters of JIS X 0201: ASCII but for the yen sign and the overline. -/
def roman? (b : Nat) : Option Char :=
  if b = 0x5C then some '¥'
  else if b = 0x7E then some '‾'
  else if b < 0x80 then some (Char.ofNat b)
  else none

/-! ## 2. EUC -/

/-- The byte before a narrow kana, and the byte before two bytes of a further set. -/
def kanaMark : Nat := 0x8E
def furtherMark : Nat := 0x8F

/-- EUC: ASCII, pairs of bytes, narrow kana after one mark and a further set after the other one. -/
def eucPiece (pair : Nat → Piece Unit) (further? : Nat → Option Char) (b : Nat) (rest : List Nat) :
    Piece Unit :=
  if b < 0x80 then .own b
  else
    match rest with
    | [] => .incomplete
    | second :: rest =>
      if b = kanaMark then .ofChar? (narrowKana? second) 1
      else if b = furtherMark then
        match rest with
        | [] => .incomplete
        | third :: _ => .ofChar? (further? (raisedCode second third)) 2
      else pair (raisedCode b second)

def eucJpScheme : Scheme Unit :=
  ⟨"euc_jp", (), fun _ => eucPiece (fun code => .ofChar? (jisx0208.char? code) 1) jisx0212.char?⟩

/-- The characters that EUC has in the place of others in the first plane. -/
def eucReplaced : List (Nat × Char) := [(0x2140, '＼'), (0x2232, '～')]

/-- EUC with JIS X 0213. The second plane comes before JIS X 0212. -/
def eucJis0213Scheme (e : Edition) (name : String) : Scheme Unit :=
  ⟨name, (), fun _ => eucPiece (fun code => (firstPlane e eucReplaced code).piece)
    fun code => (secondPlane? e code).or (jisx0212.char? code)⟩

/-! ## 3. Shift JIS -/

/-- **The row and the column of two folded bytes**, the first row being the row zero. A first byte
    has two rows, the second byte tells which one. -/
def rowColumn? (first second : Nat) : Option (Nat × Nat) :=
  if second < 0x40 ∨ second = 0x7F ∨ 0xFC < second then none
  else
    let row := 2 * (if first < 0xE0 then first - 0x81 else first - 0xC1)
    let column := if second < 0x80 then second - 0x40 else second - 0x41
    some (if column < 0x5E then (row, column + 0x21) else (row + 1, column - 0x5E + 0x21))

/-- Whether a byte starts a pair, `last` being the last one that does. -/
def startsPair (last b : Nat) : Bool := (0x81 ≤ b && b ≤ 0x9F) || (0xE0 ≤ b && b ≤ last)

/-- The last bytes that start a pair with JIS X 0208 and with JIS X 0213. -/
def lastStart : Nat := 0xEA
def lastStart0213 : Nat := 0xFC

/-- Shift JIS: single bytes, narrow kana, and pairs by row and column. -/
def shiftPiece (single? : Nat → Option Char) (last : Nat) (pair : Nat → Nat → Piece Unit) (b : Nat)
    (rest : List Nat) : Piece Unit :=
  match (single? b).or (narrowKana? b) with
  | some c => .chars [c] 0 ()
  | none =>
    if startsPair last b then
      match rest with
      | [] => .incomplete
      | second :: _ =>
        match rowColumn? b second with
        | some (row, column) => pair row column
        | none => .illegal 1
    else .illegal 1

/-- The row of a chart. -/
def chartCode (row column : Nat) : Nat := pairCode (row + 0x21) column

def ascii? (b : Nat) : Option Char := if b < 0x80 then some (Char.ofNat b) else none

def shiftJisScheme : Scheme Unit :=
  ⟨"shift_jis", (), fun _ => shiftPiece ascii? lastStart fun row column =>
    .ofChar? (jisx0208.char? (chartCode row column)) 1⟩

/-- How many rows the first plane has. -/
def firstPlaneRows : Nat := 0x5E

/-- The row of the second plane that is folded into a row beyond the first plane. -/
def secondPlaneRow (row : Nat) : Nat :=
  if 0x67 ≤ row then row + 0x07
  else if 0x63 ≤ row ∨ row = 0x5F then row - 0x37
  else row - 0x3D

/-- Shift JIS with JIS X 0213, whose single bytes are Roman characters. -/
def shiftJis0213Scheme (e : Edition) (name : String) : Scheme Unit :=
  ⟨name, (), fun _ => shiftPiece roman? lastStart0213 fun row column =>
    if row < firstPlaneRows then (firstPlane e [(0x2140, '\\')] (chartCode row column)).piece
    else .ofChar? (secondPlane? e (pairCode (secondPlaneRow row) column)) 1⟩

/-! ## 4. Code page 932 -/

/-- The bytes without a use in Shift JIS that stand for private characters. -/
def cp932Single? (b : Nat) : Option Char :=
  if b ≤ 0x80 then some (Char.ofNat b)
  else if b = 0xA0 then some '\uf8f0'
  else if 0xFD ≤ b then some (Char.ofNat (0xF8F1 + (b - 0xFD)))
  else narrowKana? b

/-- The character of two bytes: one of the page's own, one of Shift JIS, or a private one. -/
def cp932Char? (first second : Nat) : Option Char :=
  match cp932Additions.char? (pairCode first second) with
  | some c => some c
  | none =>
    match rowColumn? first second with
    | none => none
    | some (row, column) =>
      if startsPair lastStart first then
        jisx0208.char? (chartCode row column)
      else if 0xF0 ≤ first ∧ first ≤ 0xF9 then
        some (Char.ofNat
          (0xE000 + 188 * (first - 0xF0) + (if second < 0x80 then second - 0x40 else second - 0x41)))
      else none

def cp932Piece (b : Nat) (rest : List Nat) : Piece Unit :=
  match cp932Single? b with
  | some c => .chars [c] 0 ()
  | none =>
    match rest with
    | [] => .incomplete
    | second :: _ => .ofChar? (cp932Char? b second) 1

def cp932Scheme : Scheme Unit := ⟨"cp932", (), fun _ => cp932Piece⟩

end OpenerPolicy.Text
