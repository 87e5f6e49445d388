/-
  File:      OpenerPolicy/Text/Quoted.lean
  Subject:   TEXT BETWEEN QUOTES, ON ONE LINE AND WITHOUT INVISIBLE CHARACTERS.

  Messages show a name between quotes, so that an empty or a blank name can be seen. Single quotes
  are used, unless the text holds a single quote and no double one. Inside, a backslash and the
  quote in use are escaped by a backslash, line feed, carriage return and tab have escapes of
  their own, and a code point without a visible form is written by its number.

  * `quoteMark` -- which quote is used;
  * `quotePoint` -- a code point as it stands between the quotes;
  * `quoted` -- the text between its quotes.
-/
import OpenerPolicy.Text.ClassTable
import OpenerPolicy.Text.Hex

namespace OpenerPolicy.Text

/-- The double quote, if the text holds a single one and no double one; else the single quote. -/
def quoteMark (points : List Nat) : Char :=
  if points.contains '\''.toNat && !points.contains '"'.toNat then '"' else '\''

/-- Escape of a code point by its number: two, four or eight digits, whichever are enough. -/
def numberEscape (c : Nat) : List Char :=
  if c < 0x100 then '\\' :: 'x' :: hexPadded 2 c
  else if c < 0x10000 then '\\' :: 'u' :: hexPadded 4 c
  else '\\' :: 'U' :: hexPadded 8 c

/-- Whether a code point is shown as itself. -/
def isPrintable (c : Nat) : Bool := !within c unprintableRanges

/-- **A code point as it stands between quotes**; `shown` says which ones stand for themselves. -/
def quotePoint (shown : Nat → Bool) (mark : Char) (c : Nat) : List Char :=
  if c = mark.toNat || c = '\\'.toNat then ['\\', Char.ofNat c]
  else if c = '\t'.toNat then ['\\', 't']
  else if c = '\n'.toNat then ['\\', 'n']
  else if c = '\r'.toNat then ['\\', 'r']
  else if shown c then [Char.ofNat c]
  else numberEscape c

/-- Code points between their quotes. -/
def quotedPoints (shown : Nat → Bool) (points : List Nat) : String :=
  let mark := quoteMark points
  String.ofList (mark :: points.flatMap (quotePoint shown mark) ++ [mark])

/-- **Text between quotes.** -/
def quoted (s : String) : String := quotedPoints isPrintable (s.toList.map Char.toNat)

end OpenerPolicy.Text
