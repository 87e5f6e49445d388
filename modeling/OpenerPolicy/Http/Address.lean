/-
  File:      OpenerPolicy/Http/Address.lean
  Subject:   PATHS IN ADDRESSES.

  * `addressPath` -- the path of a request as it stands in its address: it begins with a slash, the
    characters that would end a path are escaped, and those that no address can hold are left out;
  * `percentQuoted` -- text with every byte escaped that an address cannot hold.
-/
import OpenerPolicy.Text.Encoding

namespace OpenerPolicy.Http

open Text

/-- The characters that would end a path, with their escapes. -/
def pathEscape (c : Char) : List Char :=
  if c = '?' then "%3F".toList
  else if c = '#' then "%23".toList
  else if c = '\\' then "%5C".toList
  else [c]

/-- A path without an end inside it. -/
def escapedPath (path : String) : List Char := path.toList.flatMap pathEscape

/-- A path parted from the host before it by a slash. An empty one stays empty. -/
def rooted : List Char → List Char
  | [] => []
  | c :: rest => if c = '/' then c :: rest else '/' :: c :: rest

/-- A character that is left out of addresses. -/
def isBreak (c : Char) : Bool := c = '\t' || c = '\r' || c = '\n'

/-- **The path as it stands in the address of a request.** -/
def addressPath (path : String) : String :=
  String.ofList ((rooted (escapedPath path)).filter (!isBreak ·))

/-- Characters that stand for themselves in a location. -/
def isPlain (b : Nat) : Bool :=
  (0x30 ≤ b && b ≤ 0x39) || (0x41 ≤ b && b ≤ 0x5A) || (0x61 ≤ b && b ≤ 0x7A)
    || ("_.-~:/%#?=@[]!$&'()*+,;".toList.map Char.toNat).contains b

def upperHex (n : Nat) : Char := (hexDigit n).toUpper

/-- **Text with every other byte written by its number.** -/
def percentQuoted (s : String) : String :=
  String.ofList ((utf8Bytes s).flatMap fun b =>
    if isPlain b.toNat then [Char.ofNat b.toNat]
    else ['%', upperHex (b.toNat / 16), upperHex (b.toNat % 16)])

end OpenerPolicy.Http
