/-
  File:      OpenerPolicy/Json/Writer.lean
  Subject:   WRITING JSON DOCUMENTS IN ASCII, ON ONE LINE OR INDENTED.

  Every character beyond ASCII is written as an escape by number, as a surrogate pair if it is beyond
  the first 65536 code points. So a document is ASCII whatever its strings hold, and a document on
  one line holds no line feed.

  * `Json.compact` -- on one line, with a blank after commas and colons;
  * `Json.indented` -- one item or member a line, two blanks deeper for each level.
-/
import OpenerPolicy.Json.Value
import OpenerPolicy.Number.Decimal
import OpenerPolicy.Text.Hex

namespace OpenerPolicy.Json

open OpenerPolicy.Text OpenerPolicy.Number

/-! ## 1. Strings and numbers -/

/-- An escape by four digits. -/
def unitEscape (unit : Nat) : List Char := '\\' :: 'u' :: hexPadded 4 unit

/-- **A code point inside a string.** -/
def escapePoint (c : Nat) : List Char :=
  if c = '"'.toNat then ['\\', '"']
  else if c = '\\'.toNat then ['\\', '\\']
  else if c = 10 then ['\\', 'n']
  else if c = 13 then ['\\', 'r']
  else if c = 9 then ['\\', 't']
  else if c = 12 then ['\\', 'f']
  else if c = 8 then ['\\', 'b']
  else if 0x20 ≤ c ∧ c < 0x7F then [Char.ofNat c]
  else if c < 0x10000 then unitEscape c
  else unitEscape (0xD800 + (c - 0x10000) / 0x400) ++ unitEscape (0xDC00 + (c - 0x10000) % 0x400)

def textChars (t : Text) : List Char := '"' :: t.points.flatMap escapePoint ++ ['"']

def intChars (n : Int) : List Char :=
  if n < 0 then '-' :: digitChars n.natAbs else digitChars n.natAbs

def floatChars (x : Binary64) : List Char := (x.text .document).toList

/-! ## 2. On one line -/

mutual

def compactChars : Json → List Char
  | .null => "null".toList
  | .bool b => if b then "true".toList else "false".toList
  | .int n => intChars n
  | .float x => floatChars x
  | .text t => textChars t
  | .list items => '[' :: compactItems items ++ [']']
  | .members fields => '{' :: compactMembers fields ++ ['}']

def compactItems : List Json → List Char
  | [] => []
  | [item] => compactChars item
  | item :: rest => compactChars item ++ ',' :: ' ' :: compactItems rest

def compactMembers : List (Text × Json) → List Char
  | [] => []
  | [(name, value)] => textChars name ++ ':' :: ' ' :: compactChars value
  | (name, value) :: rest =>
    textChars name ++ ':' :: ' ' :: compactChars value ++ ',' :: ' ' :: compactMembers rest

end

/-- **A document on one line.** -/
def compact (j : Json) : String := String.ofList (compactChars j)

/-! ## 3. Indented -/

def newLine (depth : Nat) : List Char := '\n' :: List.replicate (2 * depth) ' '

mutual

def indentedChars (depth : Nat) : Json → List Char
  | .list items =>
    if items.isEmpty then "[]".toList
    else '[' :: indentedItems (depth + 1) items ++ newLine depth ++ [']']
  | .members fields =>
    if fields.isEmpty then ['{', '}']
    else '{' :: indentedMembers (depth + 1) fields ++ newLine depth ++ ['}']
  | .null => "null".toList
  | .bool b => if b then "true".toList else "false".toList
  | .int n => intChars n
  | .float x => floatChars x
  | .text t => textChars t

/-- Items, each on a line of its own. -/
def indentedItems (depth : Nat) : List Json → List Char
  | [] => []
  | [item] => newLine depth ++ indentedChars depth item
  | item :: rest => newLine depth ++ indentedChars depth item ++ ',' :: indentedItems depth rest

/-- Members, each on a line of its own. -/
def indentedMembers (depth : Nat) : List (Text × Json) → List Char
  | [] => []
  | [(name, value)] =>
    newLine depth ++ textChars name ++ ':' :: ' ' :: indentedChars depth value
  | (name, value) :: rest =>
    newLine depth ++ textChars name ++ ':' :: ' ' :: indentedChars depth value
      ++ ',' :: indentedMembers depth rest

end

/-- **A document with one item or member a line.** -/
def indented (j : Json) : String := String.ofList (indentedChars 0 j)

end OpenerPolicy.Json
