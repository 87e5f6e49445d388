/-
  File:      OpenerPolicy/Http/Pattern.lean
  Subject:   PATH PATTERNS.

  A pattern is text with holes, `/item/{id:int}`: between braces stands the name of a hole and the
  token of its kind. A hole takes as many characters as it can; it gives some of them back where the
  rest of the pattern does not fit otherwise.

  * `Hole`, `Hole.ways` -- the kinds of holes, and what each can take;
  * `Pattern.parse` -- a pattern from its text, or what is wrong with it (`PatternFault`);
  * `Pattern.mountPoint` -- the pattern of all paths below a root;
  * `fit`, `Pattern.read` -- the first way in which a pattern fits a whole path, and what its holes
    take; a number with too many digits is a fault;
  * `drop_of_mem_ways` -- what is left is the text after what is taken.
-/
import OpenerPolicy.Fault
import OpenerPolicy.Text.Order

namespace OpenerPolicy.Http

/-! ## 1. Holes -/

/-- What a hole takes. -/
inductive Hole where
  /-- At least one character, and no slash. -/
  | segment
  /-- At least one digit. -/
  | digits
  /-- Digits, and perhaps a point and more digits. -/
  | decimal
  /-- Hexadecimal digits in groups of 8, 4, 4, 4 and 12, with or without a hyphen between groups. -/
  | identifier
  /-- Anything up to the end of the line. -/
  | rest
  deriving DecidableEq, Repr

namespace Hole

def all : List Hole := [.segment, .digits, .decimal, .identifier, .rest]

/-- **The token of a kind.** -/
def token : Hole → String
  | .segment => "str"
  | .digits => "int"
  | .decimal => "float"
  | .identifier => "uuid"
  | .rest => "path"

/-- The kind of a token; no other spelling is accepted. -/
def ofToken? (s : String) : Option Hole := all.find? (·.token = s)

def isDigit (c : Char) : Bool := '0' ≤ c && c ≤ '9'

/-- What is left after one character, after two and so on, as long as they pass a test; `n` characters
    are taken already. -/
def taken (p : Char → Bool) (n : Nat) : List Char → List (Nat × List Char)
  | [] => []
  | c :: left => if p c then (n + 1, left) :: taken p (n + 1) left else []

/-- Digits with a fraction, and then without one. -/
def decimalWays (s : List Char) : List (Nat × List Char) :=
  let whole := (taken isDigit 0 s).reverse
  match whole with
  | (n, '.' :: fraction) :: _ => (taken isDigit (n + 1) fraction).reverse ++ whole
  | _ => whole

/-- Whether the text begins with a number of hexadecimal digits. -/
def startsHex (n : Nat) (s : List Char) : Bool :=
  let first := s.take n
  first.length = n && first.all fun c => (Text.hexValue? c).isSome

/-- The length of groups of hexadecimal digits, each after a hyphen or without. -/
def groupsLength? : List Nat → List Char → Option Nat
  | [], _ => some 0
  | n :: groups, s =>
    let hyphen := if s.head? = some '-' then 1 else 0
    let s := s.drop hyphen
    if startsHex n s then (groupsLength? groups (s.drop n)).map (hyphen + n + ·) else none

/-- **What a hole can take at the start of a text**: how many characters, and what is left of the
    text; the preferred way first. -/
def ways : Hole → List Char → List (Nat × List Char)
  | .segment, s => (taken (· ≠ '/') 0 s).reverse
  | .digits, s => (taken isDigit 0 s).reverse
  | .decimal, s => decimalWays s
  | .identifier, s =>
    if startsHex 8 s then
      ((groupsLength? [4, 4, 4, 12] (s.drop 8)).map fun n => (8 + n, s.drop (8 + n))).toList
    else []
  | .rest, s => (taken (· ≠ '\n') 0 s).reverse ++ [(0, s)]

theorem drop_of_mem_taken {p : Char → Bool} {n m : Nat} {s left : List Char}
    (h : (m, left) ∈ taken p n s) : n < m ∧ left = s.drop (m - n) := by
  induction s generalizing n with
  | nil => simp [taken] at h
  | cons c s ih =>
    simp only [taken] at h
    split at h
    · rcases List.mem_cons.1 h with h | h
      · obtain ⟨rfl, rfl⟩ := Prod.mk.injEq .. ▸ h
        simp
      · obtain ⟨hlt, rfl⟩ := ih h
        refine ⟨by omega, ?_⟩
        rw [show m - n = m - (n + 1) + 1 by omega, List.drop_succ_cons]
    · simp at h

/-- What is left is the text after what is taken. -/
theorem drop_of_mem_ways {h : Hole} {n : Nat} {s left : List Char} (hm : (n, left) ∈ h.ways s) :
    left = s.drop n := by
  have short {p : Char → Bool} (hm : (n, left) ∈ (taken p 0 s).reverse) : left = s.drop n := by
    simpa using (drop_of_mem_taken (List.mem_reverse.1 hm)).2
  cases h with
  | segment => exact short hm
  | digits => exact short hm
  | decimal =>
    simp only [ways, decimalWays] at hm
    split at hm
    · next k fraction more heq =>
      rcases List.mem_append.1 hm with hm | hm
      · obtain ⟨hlt, rfl⟩ := drop_of_mem_taken (List.mem_reverse.1 hm)
        have hk : (k, '.' :: fraction) ∈ (taken isDigit 0 s).reverse := by rw [heq]; simp
        have hs := (drop_of_mem_taken (List.mem_reverse.1 hk)).2
        simp only [Nat.sub_zero] at hs
        rw [show n = k + 1 + (n - (k + 1)) by omega, ← List.drop_drop, ← List.drop_drop, ← hs]
        simp
      · exact short hm
    · exact short hm
  | identifier =>
    simp only [ways] at hm
    split at hm
    · simp only [Option.mem_toList, Option.map_eq_some_iff, Prod.mk.injEq] at hm
      obtain ⟨k, -, rfl, rfl⟩ := hm
      rfl
    · simp at hm
  | rest =>
    rcases List.mem_append.1 hm with hm | hm
    · exact short hm
    · obtain ⟨rfl, rfl⟩ := Prod.mk.injEq .. ▸ List.mem_singleton.1 hm
      rfl

end Hole

/-! ## 2. Reading -/

/-- A piece of a pattern. -/
inductive Piece where
  | char (c : Char)
  | hole (name : String) (h : Hole)
  deriving DecidableEq, Repr

def Piece.name? : Piece → Option String
  | .char _ => none
  | .hole name _ => some name

/-- Why text is no pattern. -/
inductive PatternFault where
  /-- It does not begin with a slash. -/
  | unrooted
  /-- A hole has a kind that there is not. -/
  | unknownKind (token : String)
  /-- Several holes have one name. -/
  | repeatedNames (names : List String) (text : String)
  deriving DecidableEq, Repr

def PatternFault.message : PatternFault → String
  | .unrooted => "Routed paths must start with '/'"
  | .unknownKind token => s!"Unknown path convertor '{token}'"
  | .repeatedNames [name] text => s!"Duplicated param name {name} at path {text}"
  | .repeatedNames names text =>
    "Duplicated param names " ++ ", ".intercalate names ++ s!" at path {text}"

/-- A name: letters, digits and underscores, not beginning with a digit. -/
def isName : List Char → Bool
  | [] => false
  | c :: rest => (c.isAlpha || c = '_') && rest.all fun d => d.isAlphanum || d = '_'

/-- The name and the token of a hole, from what stands between its braces; none if that is no hole. -/
def readHole? (inner : List Char) : Option (String × String) :=
  let name := inner.takeWhile (· ≠ ':')
  match inner.dropWhile (· ≠ ':') with
  | [] => if isName name then some (String.ofList name, Hole.segment.token) else none
  | _ :: token =>
    if isName name && isName token then some (String.ofList name, String.ofList token) else none

/-- The hole that text begins with, and the text after it. -/
def leadingHole? : List Char → Option ((String × String) × List Char)
  | '{' :: rest =>
    match readHole? (rest.takeWhile (· ≠ '}')), rest.dropWhile (· ≠ '}') with
    | some hole, _ :: after => some (hole, after)
    | _, _ => none
  | _ => none

/-- The pieces of a pattern. Braces that are no hole stand for themselves. Every step takes at least
    one character, so the length of the pattern is enough fuel. -/
def readPieces : (fuel : Nat) → List Char → Except PatternFault (List Piece)
  | 0, _ => .ok []
  | _, [] => .ok []
  | fuel + 1, c :: rest =>
    match leadingHole? (c :: rest) with
    | none => (readPieces fuel rest).map (.char c :: ·)
    | some ((name, token), after) =>
      match Hole.ofToken? token with
      | none => .error (.unknownKind token)
      | some h => (readPieces fuel after).map (.hole name h :: ·)

/-- The names that occur more than once, in order. -/
def repeated (names : List String) : List String :=
  Text.ordered (names.filter fun name => 1 < names.count name).eraseDups

/-- A pattern with its text. -/
structure Pattern where
  text : String
  pieces : List Piece
  deriving DecidableEq, Repr

namespace Pattern

/-- **A pattern from its text.** -/
def parse (text : String) : Except PatternFault Pattern :=
  if text.toList.head? ≠ some '/' then .error .unrooted
  else do
    let pieces ← readPieces text.toList.length text.toList
    match repeated (pieces.filterMap Piece.name?) with
    | [] => return ⟨text, pieces⟩
    | names => .error (.repeatedNames names text)

end Pattern

/-- Text without slashes at its end. -/
def withoutEndSlashes (s : List Char) : List Char := (s.reverse.dropWhile (· = '/')).reverse

/-- **The pattern of all paths below a root.** Its last hole takes what follows the slash after the
    root. An empty root is the root of all paths. -/
def Pattern.mountPoint (root : String) : Except PatternFault Pattern :=
  if root = "" ∨ root.toList.head? = some '/' then
    parse (String.ofList (withoutEndSlashes root.toList) ++ "/\x7bpath:path\x7d")
  else .error .unrooted

/-! ## 3. Fitting -/

/-- What a hole took. -/
structure Capture where
  hole : Hole
  text : List Char
  deriving DecidableEq, Repr

/-- A path may end with a line feed. -/
def isEnd (s : List Char) : Bool := s = [] || s = ['\n']

/-- **The first way in which pieces fit a whole path**, and what the holes take. -/
def fit : List Piece → List Char → Option (List Capture)
  | [], s => if isEnd s then some [] else none
  | .char _ :: _, [] => none
  | .char c :: pieces, d :: rest => if c = d then fit pieces rest else none
  | .hole _ h :: pieces, s =>
    (h.ways s).findSome? fun (n, rest) => (fit pieces rest).map (⟨h, s.take n⟩ :: ·)

/-- A number that is too long to be read. -/
def Capture.fault? (c : Capture) : Option Fault :=
  if c.hole = .digits ∧ Number.maxIntegerDigits < c.text.length then
    some (.numberTooLong c.text.length)
  else none

/-- **What the holes of a pattern take of a path**; none if it does not fit. -/
def Pattern.read (p : Pattern) (path : List Char) : Except Fault (Option (List Capture)) :=
  match fit p.pieces path with
  | none => .ok none
  | some captures =>
    match captures.findSome? Capture.fault? with
    | none => .ok (some captures)
    | some f => .error f

end OpenerPolicy.Http
