/-
  File:      OpenerPolicy/Settings/Check.lean
  Subject:   CHECKING JSON VALUES, WITH ALL COMPLAINTS AND THEIR PLACES.

  A check turns a JSON value into a value of some type, or gives every complaint there is. The parts
  of an object or a list are checked on their own, and their complaints are put together in order.

  * `Issue`, `Checked` -- a complaint with its place, and the outcome of a check;
  * `Checked.and`, `checkItems` -- several checks put together: no complaint is lost;
  * `required`, `optional` -- the checks of single members;
  * `checkText`, `checkBool`, `checkToken` -- the checks of plain values;
  * `and_eq_ok_iff`, `checkFrom_eq_ok_iff` -- checks put together succeed exactly if all of them do.
-/
import OpenerPolicy.Json.Value

namespace OpenerPolicy.Settings

/-! ## 1. Complaints -/

/-- What can be wrong with a value. -/
inductive Complaint where
  | missing
  | notText
  /-- A string that is no text. -/
  | tornText
  | emptyText
  | notBool
  /-- A value of a kind that may stand for a truth value, but this one does not. -/
  | unclearBool
  | notOneOf (tokens : List String)
  | notAList
  | notARecord (typeName : String)
  /-- The whole cannot be changed. -/
  | frozen
  deriving DecidableEq, Repr

/-- A choice in words: `'a', 'b' or 'c'`. -/
def alternatives : List String → String
  | [] => ""
  | [a] => "'" ++ a ++ "'"
  | [a, b] => "'" ++ a ++ "' or '" ++ b ++ "'"
  | a :: rest => "'" ++ a ++ "', " ++ alternatives rest

def Complaint.message : Complaint → String
  | .missing => "Field required"
  | .notText => "Input should be a valid string"
  | .tornText =>
    "Input should be a valid string, unable to parse raw data as a unicode string"
  | .emptyText => "String should have at least 1 character"
  | .notBool => "Input should be a valid boolean"
  | .unclearBool => "Input should be a valid boolean, unable to interpret input"
  | .notOneOf tokens => "Input should be " ++ alternatives tokens
  | .notAList => "Input should be a valid list"
  | .notARecord typeName => "Input should be a valid dictionary or instance of " ++ typeName
  | .frozen => "Instance is frozen"

/-- One step from a value to a part of it. -/
inductive Part where
  | member (name : String)
  | item (index : Nat)
  deriving DecidableEq, Repr

def Part.text : Part → String
  | .member name => name
  | .item index => toString index

/-- A complaint about the part of a value at a place. -/
structure Issue where
  place : List Part
  complaint : Complaint
  deriving DecidableEq, Repr

/-- The place and the complaint, on one line. -/
def Issue.text (i : Issue) : String :=
  ".".intercalate (i.place.map Part.text) ++ ": " ++ i.complaint.message

/-- All complaints, one a line. -/
def issueLines (issues : List Issue) : String := "\n".intercalate (issues.map Issue.text)

/-! ## 2. Outcomes -/

/-- **The outcome of a check**: a value, or all complaints. -/
abbrev Checked (α : Type) := Except (List Issue) α

namespace Checked

variable {α β : Type}

def fail (c : Complaint) : Checked α := .error [⟨[], c⟩]

/-- The complaints of an outcome. -/
def issues : Checked α → List Issue
  | .ok _ => []
  | .error issues => issues

/-- Complaints about a part, as complaints about the whole. -/
def under (part : Part) (c : Checked α) : Checked α :=
  c.mapError fun issues => issues.map fun i => ⟨part :: i.place, i.complaint⟩

/-- **Two outcomes put together.** -/
def and (a : Checked α) (b : Checked β) : Checked (α × β) :=
  match a, b with
  | .ok x, .ok y => .ok (x, y)
  | _, _ => .error (a.issues ++ b.issues)

theorem and_eq_ok_iff (a : Checked α) (b : Checked β) (x : α) (y : β) :
    a.and b = .ok (x, y) ↔ a = .ok x ∧ b = .ok y := by
  cases a <;> cases b <;> simp [Checked.and]

end Checked

/-! ## 3. Lists and members -/

variable {α : Type}

/-- The items of a list from an index on. -/
def checkFrom (check : Json → Checked α) : (index : Nat) → List Json → Checked (List α)
  | _, [] => .ok []
  | index, item :: rest =>
    (((check item).under (.item index)).and (checkFrom check (index + 1) rest)).map fun (a, l) => a :: l

/-- **Every item of a list.** -/
def checkItems (check : Json → Checked α) : Json → Checked (List α)
  | .list items => checkFrom check 0 items
  | _ => .fail .notAList

/-- A member that has to be there. -/
def required (j : Json) (name : String) (check : Json → Checked α) : Checked α :=
  match j.field? name with
  | some value => (check value).under (.member name)
  | none => (Checked.fail .missing).under (.member name)

/-- A member with a value to stand in for it. -/
def optional (j : Json) (name : String) (absent : α) (check : Json → Checked α) : Checked α :=
  match j.field? name with
  | some value => (check value).under (.member name)
  | none => .ok absent

/-- The members of an object; any other value is not of the type named. -/
def record (typeName : String) (j : Json) (members : Checked α) : Checked α :=
  match j with
  | .members _ => members
  | _ => .fail (.notARecord typeName)

/-! ## 4. Plain values -/

/-- Any string, be it text or not. -/
def checkText : Json → Checked Json.Text
  | .text t => .ok t
  | _ => .fail .notText

/-- Text that is not empty. -/
def checkFullText : Json → Checked String
  | .text (.whole s) => if s = "" then .fail .emptyText else .ok s
  | .text (.torn _) => .fail .tornText
  | _ => .fail .notText

/-- **One of several tokens**, each standing for a value. -/
def checkToken (table : List (String × α)) : Json → Checked α
  | .text (.whole s) =>
    match table.lookup s with
    | some a => .ok a
    | none => .fail (.notOneOf (table.map Prod.fst))
  | .text (.torn _) => .fail .tornText
  | _ => .fail (.notOneOf (table.map Prod.fst))

/-- The words that stand for a truth value; capitals make no difference. -/
def truthWords : List (String × Bool) :=
  [("0", false), ("off", false), ("f", false), ("false", false), ("n", false), ("no", false),
   ("1", true), ("on", true), ("t", true), ("true", true), ("y", true), ("yes", true)]

/-- A number as a truth value, as far as it stands for one. -/
def checkFlag (n : Int) : Checked Bool :=
  if n = 0 then .ok false else if n = 1 then .ok true else .fail .unclearBool

/-- **A truth value**: one of the two, the number 0 or 1, or a word for it. A number that is no
    integer of 64 bits cannot stand for one at all. -/
def checkBool : Json → Checked Bool
  | .bool b => .ok b
  | .int n => if -(Nat.pow 2 63 : Int) ≤ n ∧ n < Nat.pow 2 63 then checkFlag n else .fail .notBool
  | .float x =>
    match x.toInt? with
    | some n => if -(Nat.pow 2 63 : Int) < n ∧ n < Nat.pow 2 63 then checkFlag n else .fail .notBool
    | none => .fail .notBool
  | .text (.whole s) =>
    match truthWords.lookup s.toLower with
    | some b => .ok b
    | none => .fail .unclearBool
  | .text (.torn _) => .fail .tornText
  | _ => .fail .notBool

/-! ## 5. Small facts -/

@[simp] theorem under_ok (part : Part) (a : α) : Checked.under part (.ok a) = .ok a := rfl

@[simp] theorem under_error (part : Part) (issues : List Issue) :
    Checked.under part (.error issues : Checked α)
      = .error (issues.map fun i => ⟨part :: i.place, i.complaint⟩) := rfl

theorem under_eq_ok_iff (part : Part) (c : Checked α) (a : α) : c.under part = .ok a ↔ c = .ok a := by
  cases c <;> simp

/-- A list is accepted exactly if every item is. -/
theorem checkFrom_eq_ok_iff (check : Json → Checked α) (index : Nat) (items : List Json)
    (l : List α) : checkFrom check index items = .ok l ↔ items.map check = l.map .ok := by
  induction items generalizing index l with
  | nil => cases l <;> simp [checkFrom]
  | cons item rest ih =>
    cases hi : check item with
    | error issues =>
      cases l <;> simp [checkFrom, hi, Checked.and, Except.map]
    | ok a =>
      cases hr : checkFrom check (index + 1) rest with
      | error issues =>
        have := ih (index + 1)
        simp only [hr, reduceCtorEq, false_iff] at this
        cases l with
        | nil => simp [checkFrom, hi, hr, Checked.and, Except.map]
        | cons b l =>
          simpa [checkFrom, hi, hr, Checked.and, Except.map]
            using fun _ => this l
      | ok l' =>
        have := ih (index + 1)
        simp only [hr, Except.ok.injEq] at this
        cases l with
        | nil => simp [checkFrom, hi, hr, Checked.and, Except.map]
        | cons b l =>
          simp [checkFrom, hi, hr, Checked.and, Except.map, this]

end OpenerPolicy.Settings
