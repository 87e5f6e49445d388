/-
  File:      OpenerPolicy/Text/Multibyte.lean
  Subject:   TEXT IN PIECES: encodings where a character takes up one byte or several.

  Bytes are read piece by piece. What a place holds depends on the bytes from there on and on a state,
  for instance on the character set that was chosen last.

  * `Piece` -- what a place holds;
  * `Scheme` -- an encoding by its name, its state at the start and its pieces;
  * `Scheme.decode` -- the text of bytes, or a `MultibyteFault`.
-/
import OpenerPolicy.Text.Encoding

namespace OpenerPolicy.Text

/-- **What a place holds.** -/
inductive Piece (σ : Type) where
  /-- Characters, the number of bytes after the first one that they take up, and the state behind
      them. -/
  | chars (s : List Char) (more : Nat) (state : σ)
  /-- Bytes that stand for nothing. -/
  | illegal (count : Nat)
  /-- The bytes end within a piece. -/
  | incomplete
  /-- A character of a set that cannot be used there. -/
  | unusableSet
  deriving DecidableEq, Repr

namespace Piece

/-- A byte that stands for the character of its number. -/
def own (b : Nat) : Piece Unit := .chars [Char.ofNat b] 0 ()

/-- A character, if one is found. -/
def ofChar? (c : Option Char) (more : Nat) : Piece Unit :=
  match c with
  | some c => .chars [c] more ()
  | none => .illegal 1

/-- The characters of a code that may stand for more than one. -/
def ofChars? (s : Option (List Char)) (more : Nat) : Piece Unit :=
  match s with
  | some s => .chars s more ()
  | none => .illegal 1

end Piece

/-- An encoding: its name, the state at the start, and the piece that starts with a byte and goes on
    with those that follow. -/
structure Scheme (σ : Type) where
  name : String
  start : σ
  piece : σ → Nat → List Nat → Piece σ

/-- Why bytes have no text under a scheme. -/
inductive MultibyteFault where
  | malformed (f : DecodeFault)
  | unusableSet

namespace Scheme

variable {σ : Type}

/-- The text from some byte on; `pos` is its position, and `skip` bytes belong to a piece that is
    read. -/
def decodeFrom (m : Scheme σ) (pos skip : Nat) (state : σ) :
    List Nat → Except MultibyteFault (List Char)
  | [] => .ok []
  | b :: rest =>
    match skip with
    | skip + 1 => m.decodeFrom (pos + 1) skip state rest
    | 0 =>
      match m.piece state b rest with
      | .chars s more state => (s ++ ·) <$> m.decodeFrom (pos + 1) more state rest
      | .illegal count =>
        .error (.malformed ⟨m.name, pos, count, UInt8.ofNat b, "illegal multibyte sequence"⟩)
      | .incomplete =>
        .error (.malformed ⟨m.name, pos, 1 + rest.length, UInt8.ofNat b,
          "incomplete multibyte sequence"⟩)
      | .unusableSet => .error .unusableSet

/-- **The text of bytes under a scheme.** -/
def decode (m : Scheme σ) (bytes : List UInt8) : Except MultibyteFault (List Char) :=
  m.decodeFrom 0 0 m.start (bytes.map UInt8.toNat)

end Scheme

end OpenerPolicy.Text
