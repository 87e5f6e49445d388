/-
  File:      OpenerPolicy/Value.lean
  Subject:   VALUES OF PROGRAMS: what messages, arguments and levels are made of.

  A program hands over more than JSON: tuples, keys that are no text, values of kinds of its own, and
  containers that hold themselves. Any value can be shown, as a literal or as plain text, and may be
  written as JSON; an integer with too many digits, a value whose own text fails, a container that
  holds itself and a key of the wrong kind stand in the way.

  * `Value`, `Key`, `ForeignValue` -- the values, the keys of their members, and the kinds made by programs;
  * `ValueFault` -- why a value has no text or no JSON form;
  * `Value.literal`, `Value.display` -- `[1, 'a']` and the text of a message: text as it is, and the
    literal of anything else;
  * `Value.toJson` -- the JSON form: a kind made by a program by its text, and keys as text;
  * `Value.ofJson` -- a JSON value as a value of a program;
  * `Value.isVoid` -- the values that count as nothing: null, false, zero and whatever is empty.
-/
import OpenerPolicy.Json.Value
import OpenerPolicy.Number.Decimal
import OpenerPolicy.Text.Quoted
import OpenerPolicy.Text.Surrogate

namespace OpenerPolicy

open OpenerPolicy.Number
open OpenerPolicy.Text (points quotedPoints isPrintable numberEscape)

/-! ## 1. Faults -/

/-- What a program raises where it is asked for the text of a value. -/
structure Failure where
  kind : String
  message : String
  deriving DecidableEq, Repr

instance {α : Type} [DecidableEq α] : DecidableEq (Except Failure α)
  | .ok a, .ok b => decidable_of_iff (a = b) ⟨congrArg Except.ok, Except.ok.inj⟩
  | .error f, .error g => decidable_of_iff (f = g) ⟨congrArg Except.error, Except.error.inj⟩
  | .ok _, .error _ => isFalse fun h => by cases h
  | .error _, .ok _ => isFalse fun h => by cases h

/-- **Why a value has no text, or no JSON form.** -/
inductive ValueFault where
  /-- An integer has more digits than are written. -/
  | longInteger
  | failed (f : Failure)
  /-- A key of this kind is no key of a JSON object. -/
  | badKey (kind : String)
  | circular
  deriving DecidableEq, Repr

namespace ValueFault

def kind : ValueFault → String
  | .longInteger => "ValueError"
  | .failed f => f.kind
  | .badKey _ => "TypeError"
  | .circular => "ValueError"

def message : ValueFault → String
  | .longInteger =>
    s!"Exceeds the limit ({maxIntegerDigits} digits) for integer string conversion; "
      ++ "use sys.set_int_max_str_digits() to increase the limit"
  | .failed f => f.message
  | .badKey kind => s!"keys must be str, int, float, bool or None, not {kind}"
  | .circular => "Circular reference detected"

end ValueFault

/-! ## 2. Values -/

/-- **A value of a kind made by a program**: the name of the kind, and what the program answers where
    it is asked for the text of the value, for its literal, and whether it counts as nothing. -/
structure ForeignValue where
  kind : String
  shown : Except Failure Json.Text
  literal : Except Failure Json.Text
  void : Except Failure Bool := .ok false

/-- The key of a member. -/
inductive Key where
  | null
  | bool (b : Bool)
  | int (n : Int)
  | float (x : Binary64)
  /-- A double that is not a number: such a key is equal to itself alone, so several can be there. -/
  | nan (identity : Nat)
  | text (t : Json.Text)
  /-- A key of another kind, of which only the literal can be seen. -/
  | other (kind : String) (literal : Except Failure Json.Text)
  deriving DecidableEq

/-- The kinds of values that hold others. -/
inductive Container where
  | list
  | tuple
  | members
  deriving DecidableEq, Repr

/-- **A value of a program.** Keys are in the order in which they were put. -/
inductive Value where
  | null
  | bool (b : Bool)
  | int (n : Int)
  | float (x : Binary64)
  | text (t : Json.Text)
  | list (items : List Value)
  | tuple (items : List Value)
  | members (fields : List (Key × Value))
  | foreign (f : ForeignValue)
  /-- A container that is met again inside itself. -/
  | again (c : Container)
  deriving Inhabited

namespace Value

abbrev str (s : String) : Value := .text (.whole s)

/-- Members with text for their keys. -/
def object (fields : List (String × Value)) : Value :=
  .members (fields.map fun e => (.text (.whole e.1), e.2))

/-- The member under a key that is a string; none for any other value. -/
def member? : Value → Json.Text → Option Value
  | .members fields, name => Keyed.find? (κ := Key) fields (.text name)
  | _, _ => none

/-- The member under a name. -/
def field? (v : Value) (name : String) : Option Value := v.member? (.whole name)

/-- **The values that count as nothing.** A container that holds something, be it itself, does not. -/
def isVoid : Value → Except ValueFault Bool
  | .null => .ok true
  | .bool b => .ok !b
  | .int n => .ok (n == 0)
  | .float x => .ok x.isZero
  | .text t => .ok t.isEmpty
  | .list items => .ok items.isEmpty
  | .tuple items => .ok items.isEmpty
  | .members fields => .ok fields.isEmpty
  | .foreign f => f.void.mapError .failed
  | .again _ => .ok false

/-- The name of the kind of a value, as messages give it. -/
def kindName : Value → String
  | .null => "NoneType"
  | .bool _ => "bool"
  | .int _ => "int"
  | .float _ => "float"
  | .text _ => "str"
  | .list _ | .again .list => "list"
  | .tuple _ | .again .tuple => "tuple"
  | .members _ | .again .members => "dict"
  | .foreign f => f.kind

end Value

/-! ## 3. Literals and text -/

/-- **The decimal text of an integer**, unless it has too many digits. The sign is none. -/
def decimal (n : Int) : Except ValueFault String :=
  if maxIntegerDigits < (digitChars n.natAbs).length then .error .longInteger else .ok (toString n)

/-- The literal of a container that is met again. -/
def Container.mark : Container → String
  | .list => "[...]"
  | .tuple => "(...)"
  | .members => "\x7b...\x7d"

/-- The literal of a key, in code points. -/
def Key.literal : Key → Except ValueFault (List Nat)
  | .null => .ok (points "None")
  | .bool b => .ok (points (if b then "True" else "False"))
  | .int n => points <$> decimal n
  | .float x => .ok (points (x.text .plain))
  | .nan _ => .ok (points (Binary64.nan.text .plain))
  | .text t => .ok (points (quotedPoints isPrintable t.points))
  | .other _ literal => (literal.mapError .failed).map Json.Text.points

namespace Value

mutual

/-- **The literal of a value**, in code points. -/
def literal : Value → Except ValueFault (List Nat)
  | .null => .ok (points "None")
  | .bool b => .ok (points (if b then "True" else "False"))
  | .int n => points <$> decimal n
  | .float x => .ok (points (x.text .plain))
  | .text t => .ok (points (quotedPoints isPrintable t.points))
  | .list items => do
    let shown ← literalItems items
    return points "[" ++ shown ++ points "]"
  | .tuple items => do
    let shown ← literalItems items
    -- a single item has a comma after it
    return points "(" ++ shown ++ points (if items.length = 1 then ",)" else ")")
  | .members fields => do
    let shown ← literalMembers fields
    return points "\x7b" ++ shown ++ points "\x7d"
  | .foreign f => (f.literal.mapError .failed).map Json.Text.points
  | .again c => .ok (points c.mark)

def literalItems : List Value → Except ValueFault (List Nat)
  | [] => .ok []
  | [item] => literal item
  | item :: rest => do
    let shown ← literal item
    return shown ++ points ", " ++ (← literalItems rest)

def literalMembers : List (Key × Value) → Except ValueFault (List Nat)
  | [] => .ok []
  | [(key, value)] => do
    let name ← key.literal
    return name ++ points ": " ++ (← literal value)
  | (key, value) :: rest => do
    let name ← key.literal
    let shown ← literal value
    return name ++ points ": " ++ shown ++ points ", " ++ (← literalMembers rest)

end

/-- The literal of a value in ASCII: whatever is beyond it is written by its number. -/
def literalAscii (v : Value) : Except ValueFault (List Nat) := do
  return (← v.literal).flatMap fun c => if c < 0x80 then [c] else (numberEscape c).map Char.toNat

/-- **The text of a value**: text as it is, a kind made by a program as the program says, and the
    literal of anything else. -/
def display : Value → Except ValueFault Json.Text
  | .text t => .ok t
  | .foreign f => f.shown.mapError .failed
  | v => Json.Text.ofPoints <$> v.literal

/-- The text of something raised with arguments: none, a single one as it is, or all of them between
    round brackets. -/
def argumentText : List Value → Except ValueFault Json.Text
  | [] => .ok (.whole "")
  | [value] => value.display
  | values => (Value.tuple values).display

end Value

/-! ## 4. The JSON form -/

/-- **The name of a member in a JSON object.** Numbers, truth values and null are written as text. -/
def Key.name : Key → Except ValueFault Json.Text
  | .null => .ok (.whole "null")
  | .bool b => .ok (.whole (if b then "true" else "false"))
  | .int n => .whole <$> decimal n
  | .float x => .ok (.whole (x.text .document))
  | .nan _ => .ok (.whole (Binary64.nan.text .document))
  | .text t => .ok t
  | .other kind _ => .error (.badKey kind)

namespace Value

mutual

/-- **The JSON form of a value.** A tuple is written as a list, and a value of a kind made by a program
    as its text. -/
def toJson : Value → Except ValueFault Json
  | .null => .ok .null
  | .bool b => .ok (.bool b)
  | .int n => (decimal n).map fun _ => .int n
  | .float x => .ok (.float x)
  | .text t => .ok (.text t)
  | .list items => .list <$> toJsonItems items
  | .tuple items => .list <$> toJsonItems items
  | .members fields => .members <$> toJsonMembers fields
  | .foreign f => (f.shown.mapError .failed).map .text
  | .again _ => .error .circular

def toJsonItems : List Value → Except ValueFault (List Json)
  | [] => .ok []
  | item :: rest => do
    let j ← toJson item
    return j :: (← toJsonItems rest)

def toJsonMembers : List (Key × Value) → Except ValueFault (List (Json.Text × Json))
  | [] => .ok []
  | (key, value) :: rest => do
    let name ← key.name
    let j ← toJson value
    return (name, j) :: (← toJsonMembers rest)

end

mutual

/-- **A JSON value as a value of a program.** -/
def ofJson : Json → Value
  | .null => .null
  | .bool b => .bool b
  | .int n => .int n
  | .float x => .float x
  | .text t => .text t
  | .list items => .list (ofJsonItems items)
  | .members fields => .members (ofJsonMembers fields)

def ofJsonItems : List Json → List Value
  | [] => []
  | item :: rest => ofJson item :: ofJsonItems rest

def ofJsonMembers : List (Json.Text × Json) → List (Key × Value)
  | [] => []
  | (name, j) :: rest => (.text name, ofJson j) :: ofJsonMembers rest

end

end Value

end OpenerPolicy
