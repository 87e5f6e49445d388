/-
  File:      OpenerPolicy/Json/Value.lean
  Subject:   JSON VALUES.

  Integers are unbounded and distinct from doubles, and the members of an object keep their order.
  A string may leave half of a surrogate pair alone, so a document can denote strings that are no
  text; `Text` tells the two apart.

  * `Text`, `Json` -- strings and values; `Text.legible` -- text for every string;
  * `Json.str`, `Json.object` -- values from plain text;
  * `Json.field?` -- a member of an object by its name.
-/
import OpenerPolicy.Keyed
import OpenerPolicy.Number.Binary64
import OpenerPolicy.Text.Quoted
import OpenerPolicy.Text.Surrogate

namespace OpenerPolicy

open Number
open OpenerPolicy.Text (isSurrogate numberEscape)

namespace Json

/-- A string of a document: text, or code points among which a surrogate stands alone. -/
inductive Text where
  | whole (s : String)
  | torn (points : List Nat)
  deriving DecidableEq, Repr, Inhabited

/-- Code points as text, if no surrogate is among them. -/
def Text.ofPoints (points : List Nat) : Text :=
  if points.any isSurrogate then .torn points else .whole (String.ofList (points.map Char.ofNat))

/-- A code point as a character; a surrogate is written by its number. -/
def legiblePoint (c : Nat) : List Char := if isSurrogate c then numberEscape c else [Char.ofNat c]

/-- **A string as text**, in which a surrogate that stands alone is written by its number. -/
def Text.legible : Text → String
  | .whole s => s
  | .torn points => String.ofList (points.flatMap legiblePoint)

def Text.points : Text → List Nat
  | .whole s => s.toList.map Char.toNat
  | .torn points => points

def Text.isEmpty : Text → Bool
  | .whole s => s.isEmpty
  | .torn points => points.isEmpty

end Json

/-- A JSON value. -/
inductive Json where
  | null
  | bool (b : Bool)
  | int (n : Int)
  | float (x : Binary64)
  | text (t : Json.Text)
  | list (items : List Json)
  | members (fields : List (Json.Text × Json))
  deriving Inhabited

namespace Json

/-- A string that is text. -/
abbrev str (s : String) : Json := .text (.whole s)

/-- An object with text for its names. -/
def object (fields : List (String × Json)) : Json :=
  .members (fields.map fun (k, v) => (.whole k, v))

def ofOption (f : α → Json) : Option α → Json
  | none => .null
  | some a => f a

/-- The member of an object under a name; none for any other value. -/
def field? : Json → String → Option Json
  | .members fields, name => Keyed.find? (κ := Text) fields (.whole name)
  | _, _ => none

end Json

end OpenerPolicy
