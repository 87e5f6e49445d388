/-
  File:      OpenerPolicy/Text/CodePage.lean
  Subject:   CODE PAGES: encodings with one byte a character.

  Each byte stands for a character of its own, or for none. The bytes below the first one of a page
  stand for the ASCII characters of their number.

  * `CodePage`, `CodePage.char?` -- a page, and the character of a byte;
  * `CodePage.decode` -- the text of bytes; the first byte without a character is a fault.
-/
import OpenerPolicy.Text.Encoding

namespace OpenerPolicy.Text

/-- A code page: the names it is known by, and the characters of the bytes from `first` on, in
    pieces. -/
structure CodePage where
  names : List String
  first : Nat
  rows : List String
  deriving DecidableEq, Repr

namespace CodePage

/-- Stands in the rows of a page for a byte without a character. -/
def unassigned : Char := '\ufffe'

def chars (p : CodePage) : List Char := p.rows.flatMap String.toList

/-- **The character of a byte.** -/
def char? (p : CodePage) (b : UInt8) : Option Char :=
  if b.toNat < p.first then some (Char.ofNat b.toNat)
  else p.chars[b.toNat - p.first]?.filter (· ≠ unassigned)

/-- The text of bytes; `pos` is the position of the first of them. -/
def decodeFrom (p : CodePage) (pos : Nat) : List UInt8 → Except DecodeFault (List Char)
  | [] => .ok []
  | b :: rest =>
    match p.char? b with
    | some c => (c :: ·) <$> p.decodeFrom (pos + 1) rest
    | none => .error ⟨"charmap", pos, 1, b, "character maps to <undefined>"⟩

/-- **The text of bytes under a page.** -/
def decode (p : CodePage) (bytes : List UInt8) : Except DecodeFault (List Char) :=
  p.decodeFrom 0 bytes

end CodePage

end OpenerPolicy.Text
