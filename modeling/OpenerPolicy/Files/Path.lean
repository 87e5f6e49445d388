/-
  File:      OpenerPolicy/Files/Path.lean
  Subject:   FILE PATHS, REDUCED TO THEIR PARTS.

  Repeated slashes, single dots and a slash at the end say nothing and are dropped; two dots stay,
  since what they lead to depends on the tree. Exactly two slashes at the start are a root of their
  own.

  * `Path.parse`, `Path.text` -- a path from its text, and the reduced text;
  * `Path.parent`, `Path.join` -- the path without its last part, and with further parts;
  * `Homes` -- the home directories of users;
  * `Path.user?`, `Path.expandHome` -- the user named after a leading tilde, and the tilde as the home
    directory of that user.
-/
import OpenerPolicy.Text.Split

namespace OpenerPolicy.Files

/-- A path: how it starts, and its parts. -/
structure Path where
  /-- No slash for a relative path; else one slash, or two. -/
  slashes : Nat
  parts : List String
  deriving DecidableEq, Repr, Inhabited

/-- Pieces that say something. -/
def isPart (piece : List Char) : Bool := piece ≠ [] && piece ≠ ['.']

def holdsZero (part : String) : Bool := part.toList.any (·.toNat = 0)

/-- **The home directories of users**, as far as they are known. The empty name is that of the user who
    runs the program. -/
abbrev Homes := String → Option Path

/-- Why the home directory that a path asks for cannot be told. -/
inductive HomeFault where
  | unknownHome
  | zeroCharacter
  deriving DecidableEq, Repr

def HomeFault.message : HomeFault → String
  | .unknownHome => "Could not determine home directory."
  | .zeroCharacter => "embedded null byte"

namespace Path

def parse (s : String) : Path :=
  let chars := s.toList
  let slashes := (chars.takeWhile (· = '/')).length
  ⟨if slashes ≤ 2 then slashes else 1,
    ((Text.pieces '/' chars).filter isPart).map String.ofList⟩

/-- **The reduced text**; a relative path without parts is a single dot. -/
def text (p : Path) : String :=
  if p.slashes = 0 && p.parts.isEmpty then "."
  else String.ofList (List.replicate p.slashes '/') ++ "/".intercalate p.parts

/-- The path without its last part; a path without parts is its own parent. -/
def parent (p : Path) : Path := { p with parts := p.parts.dropLast }

def join (p : Path) (parts : List String) : Path := { p with parts := p.parts ++ parts }

/-- Whether some part holds a zero character, which no file name can. -/
def hasZero (p : Path) : Bool := p.parts.any holdsZero

/-- The user whose home directory a relative path starts from: the one named after a leading tilde. -/
def user? (p : Path) : Option String :=
  match p.slashes, p.parts with
  | 0, first :: _ =>
    if first.toList.head? = some '~' then some (String.ofList first.toList.tail) else none
  | _, _ => none

/-- **A leading tilde as the home directory** of the user named after it. A home directory that starts
    with a tilde itself is none. -/
def expandHome (p : Path) (homes : Homes) : Except HomeFault Path :=
  match p.user? with
  | none => .ok p
  | some name =>
    if holdsZero name then .error .zeroCharacter
    else match homes name with
      | some home => if home.user?.isNone then .ok (home.join p.parts.tail) else .error .unknownHome
      | none => .error .unknownHome

end Path

end OpenerPolicy.Files
