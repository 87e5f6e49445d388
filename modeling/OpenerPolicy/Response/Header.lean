/-
  File:      OpenerPolicy/Response/Header.lean
  Subject:   RESPONSE HEADERS WITH EXCLUSIVE CLAIMS.

  Header names are compared in lowercase; each header keeps the spelling it was written with and its
  values in order. A header can be claimed once. A claim drops the values, and from then on only the
  setter it returns can write the header; every other change is a fault and changes nothing.

  * `Header.ofList` -- from entries that are there at the start;
  * `Header.claim`, `Header.assign` -- claims a header; writes it by its setter;
  * `Header.set`, `Header.add`, `Header.delete` -- direct changes to a header that is not claimed;
  * `Header.values`, `Header.get?`, `Header.items` -- what a header holds, and what is emitted;
  * `get?_eq_head?` -- the first of the values, found by a look-up of its own;
  * `values_assign` -- a header holds what its setter was last given.
-/
import OpenerPolicy.Keyed
import OpenerPolicy.Text.Case
import OpenerPolicy.Text.Order
import OpenerPolicy.Text.Quoted

namespace OpenerPolicy

/-! ## 1. Faults -/

/-- Why a header cannot be changed; the name is spelled as the caller did. -/
inductive HeaderFault where
  /-- A second claim. -/
  | claimedTwice (name : String)
  /-- A direct change of a claimed header. -/
  | claimed (name : String)
  deriving DecidableEq, Repr

namespace HeaderFault

def name : HeaderFault → String
  | .claimedTwice name => name
  | .claimed name => name

/-- The text of a second claim of a header that is shown in a given way. -/
def secondClaim (shown : String) : String := s!"Header {shown} is already claimed"

def message : HeaderFault → String
  | .claimedTwice name => secondClaim (Text.quoted name)
  | .claimed name => s!"Header {Text.quoted name} is claimed and cannot be modified directly"

end HeaderFault

/-! ## 2. The map -/

/-- A header: its name as it is emitted, and its values. -/
structure Entry where
  name : String
  values : List String
  deriving DecidableEq, Repr

/-- Headers under their lowercase names, and the lowercase names that are claimed. -/
structure Header where
  entries : Keyed String Entry := []
  claims : List String := []
  deriving DecidableEq, Repr

/-- The right to write a claimed header, and the spelling it will have. -/
structure Setter where
  key : String
  name : String
  deriving DecidableEq, Repr

/-- **The key of a name.** Two names are the same header exactly if their keys are equal. -/
def headerKey (name : String) : String := Text.lowercase name

namespace Header

/-- **The headers that are there at the start**: of two spellings of one name the later one counts,
    at the place of the earlier. -/
def ofList (initial : List (String × List String)) : Header :=
  ⟨.ofList (initial.map fun (name, values) => (headerKey name, ⟨name, values⟩)), []⟩

/-! ## 3. Reading -/

def isClaimed (h : Header) (name : String) : Bool := h.claims.contains (headerKey name)

/-- The claimed names in lowercase, in order. -/
def claimed (h : Header) : List String := Text.ordered h.claims

/-- **All values of a header**; none if it is not there. -/
def values (h : Header) (name : String) : List String :=
  ((h.entries.find? (headerKey name)).map Entry.values).getD []

/-- **The first value of a header**; none if it is not there, or is there without values. -/
def get? (h : Header) (name : String) : Option String :=
  match h.entries.find? (headerKey name) with
  | some ⟨_, value :: _⟩ => some value
  | _ => none

def contains (h : Header) (name : String) : Bool := !(h.values name).isEmpty

/-- **The headers that are emitted**: those with a value. -/
def items (h : Header) : List Entry := (h.entries.map Prod.snd).filter (!·.values.isEmpty)

/-- The header in a message for people. -/
def text (h : Header) : String :=
  let entry (e : Entry) := Text.quoted e.name ++ ": [" ++ ", ".intercalate (e.values.map Text.quoted) ++ "]"
  let names := match h.claimed with
    | [name] => Text.quoted name ++ ","
    | names => ", ".intercalate (names.map Text.quoted)
  "Header(\x7b" ++ ", ".intercalate (h.items.map entry) ++ "\x7d, claimed=(" ++ names ++ "))"

/-! ## 4. Claims -/

/-- **Claims a header**, whose values are dropped. -/
def claim (h : Header) (name : String) : Except HeaderFault (Header × Setter) :=
  let key := headerKey name
  if h.isClaimed name then .error (.claimedTwice name)
  else .ok (⟨h.entries.remove key, h.claims ++ [key]⟩, ⟨key, name⟩)

/-- **Writes a claimed header by its setter**; no values take the header out. -/
def assign (h : Header) (s : Setter) (values : List String) : Header :=
  if values.isEmpty then { h with entries := h.entries.remove s.key }
  else { h with entries := h.entries.put s.key ⟨s.name, values⟩ }

/-! ## 5. Direct changes -/

/-- The key of a name that is not claimed. -/
def openKey (h : Header) (name : String) : Except HeaderFault String :=
  if h.isClaimed name then .error (.claimed name) else .ok (headerKey name)

/-- **Replaces a header** by a single value, under the spelling given. -/
def set (h : Header) (name value : String) : Except HeaderFault Header := do
  let key ← h.openKey name
  return { h with entries := h.entries.put key ⟨name, [value]⟩ }

/-- **Adds a value to a header**, which keeps the spelling it has. -/
def add (h : Header) (name value : String) : Except HeaderFault Header := do
  let key ← h.openKey name
  match h.entries.find? key with
  | some e => return { h with entries := h.entries.put key { e with values := e.values ++ [value] } }
  | none => return { h with entries := h.entries.put key ⟨name, [value]⟩ }

/-- **Takes a header out.** -/
def delete (h : Header) (name : String) : Except HeaderFault Header := do
  let key ← h.openKey name
  return { h with entries := h.entries.remove key }

/-! ## 6. Small facts -/

/-- The first value is the first of all values. -/
theorem get?_eq_head? (h : Header) (name : String) : h.get? name = (h.values name).head? := by
  rw [get?, values]
  rcases h.entries.find? (headerKey name) with - | ⟨_, - | ⟨value, rest⟩⟩ <;> rfl

/-- A setter writes its own header and no other. -/
theorem values_assign (h : Header) (s : Setter) (l : List String) (name : String) :
    (h.assign s l).values name = if s.key = headerKey name then l else h.values name := by
  by_cases he : l.isEmpty = true
  · have : l = [] := List.isEmpty_iff.1 he
    subst this
    by_cases hk : s.key = headerKey name <;> simp [assign, values, hk]
  · by_cases hk : s.key = headerKey name <;> simp [assign, values, he, hk]

end Header

end OpenerPolicy
