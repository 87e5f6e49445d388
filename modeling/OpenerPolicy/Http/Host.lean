/-
  File:      OpenerPolicy/Http/Host.lean
  Subject:   HOSTS, AS REQUESTS NAME THEM.

  A host is a name, or a literal between square brackets: an address of version 6, or one of a future
  version. A port may follow after a colon. Text of any other form names no host.

  * `isName`, `isLiteral` -- the two kinds of hosts;
  * `isAddress4`, `isAddress6` -- addresses of versions 4 and 6;
  * `isPort` -- a port: decimal digits that stand for a number of 16 bits;
  * `isHost` -- a host with or without a port.
-/
import OpenerPolicy.Text.Hex
import OpenerPolicy.Text.Split

namespace OpenerPolicy.Http.Host

open Text (pieces hexValue?)

def isDigit (c : Char) : Bool := '0' ≤ c && c ≤ '9'

def isHexDigit (c : Char) : Bool := (hexValue? c).isSome

/-- The value of decimal digits. -/
def decimal (digits : List Char) : Nat := digits.foldl (fun n c => 10 * n + (c.toNat - 0x30)) 0

/-! ## 1. Names and ports -/

/-- A character of names and literals. -/
def isHostChar (c : Char) : Bool := c.isAlphanum || "-._~!$&'()*+,;=".toList.contains c

/-- A character of a name, which may be escaped by its number. -/
def isNameChar (c : Char) : Bool := isHostChar c || c = '%'

/-- **A name**: at least one character, and none that has a meaning of its own in an address. -/
def isName (s : List Char) : Bool := !s.isEmpty && s.all isNameChar

/-- **What may follow a host**: nothing, or a colon and a port. -/
def isPort : List Char → Bool
  | [] => true
  | c :: digits => c = ':' && !digits.isEmpty && digits.all isDigit && decimal digits < Nat.pow 2 16

/-! ## 2. Addresses -/

/-- A byte in decimal digits, without zeros in front. -/
def isOctet (s : List Char) : Bool :=
  !s.isEmpty && s.length ≤ 3 && s.all isDigit && (s.length = 1 || s.head? ≠ some '0')
    && decimal s < 256

/-- **An address of version 4**: four bytes, between points. -/
def isAddress4 (s : List Char) : Bool :=
  let octets := pieces '.' s
  octets.length = 4 && octets.all isOctet

/-- A number of 16 bits in up to four hexadecimal digits. -/
def isGroup (s : List Char) : Bool := !s.isEmpty && s.length ≤ 4 && s.all isHexDigit

/-- The groups on one side of a gap; beside the gap there may be none. -/
def sideGroups (side : List (List Char)) : List (List Char) := if side = [[]] then [] else side

/-- Eight groups; a single gap may stand for one or more of them. -/
def areGroups (groups : List (List Char)) : Bool :=
  let inner := (groups.drop 1).dropLast
  if inner.contains [] then
    let before := groups.take (1 + inner.idxOf [])
    let after := groups.drop (2 + inner.idxOf [])
    let shown := sideGroups before ++ sideGroups after
    shown.length ≤ 7 && shown.all isGroup
  else groups.length = 8 && groups.all isGroup

/-- **An address of version 6.** The last two groups may be written as an address of version 4. -/
def isAddress6 (s : List Char) : Bool :=
  let groups := pieces ':' s
  let last := groups.getLastD []
  3 ≤ groups.length &&
    if last.contains '.' then isAddress4 last && areGroups (groups.dropLast ++ [['0'], ['0']])
    else areGroups groups

/-- An address of a future version: its version in hexadecimal digits, a point, and more. -/
def isFuture (s : List Char) : Bool :=
  let version := s.takeWhile isHexDigit
  let rest := s.dropWhile isHexDigit
  !version.isEmpty && rest.head? = some '.' && 1 < rest.length

/-- **What may stand between square brackets.** -/
def isLiteral (s : List Char) : Bool :=
  s.all (fun c => isHostChar c || c = ':') &&
    match s with
    | 'v' :: rest => isFuture rest
    | _ => isAddress6 s

/-! ## 3. Hosts -/

/-- **A host with or without a port.** -/
def isHost (s : String) : Bool :=
  match s.toList with
  | '[' :: rest =>
    match rest.dropWhile (· ≠ ']') with
    | _ :: port => isLiteral (rest.takeWhile (· ≠ ']')) && isPort port
    | [] => false
  | chars => isName (chars.takeWhile (· ≠ ':')) && isPort (chars.dropWhile (· ≠ ':'))

end OpenerPolicy.Http.Host
