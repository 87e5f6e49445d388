/-
  File:      OpenerPolicy/Text/Case.lean
  Subject:   LOWERCASE, CAPITALISED AND UPPERCASE TEXT, AS UNICODE DEFINES THEM.

  Names are compared after lowercasing, so this is the one place that decides which names are the
  same. The mapping is the full one of Unicode 14, without any locale:

  * `lowercase` -- every character is replaced by its lowercase form; a capital sigma becomes the
    final form `ς` where it ends a word (`endsWord`) and `σ` elsewhere;
  * `capitalized` -- the first character in titlecase, the others in lowercase;
  * `uppercase` -- every character is replaced by its uppercase form.
-/
import OpenerPolicy.Text.CaseTable
import OpenerPolicy.Text.ClassTable

namespace OpenerPolicy.Text

/-! ## 1. Single characters -/

/-- The image of a code point under the first run that holds it; itself if there is none. -/
def mapPoint (runs : List CaseRun) (c : Nat) : Nat :=
  (runs.findSome? (·.map? c)).getD c

/-- Lowercase form of a character. The capital I with a dot above keeps its dot as a character of
    its own; every other character has a single one in its place. -/
def lowerChar (c : Char) : List Char :=
  if c = '\u0130' then ['i', '\u0307'] else [Char.ofNat (mapPoint lowercaseRuns c.toNat)]

/-- Titlecase form of a character. -/
def titleChar (c : Char) : List Char :=
  match titlecaseExpansions.lookup c.toNat with
  | some points => points.map Char.ofNat
  | none => [Char.ofNat (mapPoint titlecaseRuns c.toNat)]

/-- Uppercase form of a character, which is most often its titlecase form. -/
def upperChar (c : Char) : List Char :=
  match uppercaseExpansions.lookup c.toNat, uppercaseRuns.findSome? (·.map? c.toNat) with
  | some points, _ => points.map Char.ofNat
  | none, some point => [Char.ofNat point]
  | none, none => titleChar c

def isCased (c : Char) : Bool := within c.toNat casedRanges

def isCaseIgnorable (c : Char) : Bool := within c.toNat caseIgnorableRanges

/-! ## 2. Whole texts -/

/-- **Whether a capital sigma ends a word**: a cased character stands before it and none after it,
    case-ignorable ones passed over. `before` has the nearest character first. -/
def endsWord (before after : List Char) : Bool :=
  (before.dropWhile isCaseIgnorable).head?.any isCased &&
    !(after.dropWhile isCaseIgnorable).head?.any isCased

/-- Lowercase form of the characters that follow `before` (nearest first). -/
def lowerFrom (before : List Char) : List Char → List Char
  | [] => []
  | c :: rest =>
    (if c = 'Σ' then [if endsWord before rest then 'ς' else 'σ'] else lowerChar c)
      ++ lowerFrom (c :: before) rest

/-- **Lowercase text.** -/
def lowercase (s : String) : String := String.ofList (lowerFrom [] s.toList)

/-- **Capitalised text**: the first character in titlecase, the others in lowercase. -/
def capitalized (s : String) : String :=
  match s.toList with
  | [] => ""
  | c :: rest => String.ofList (titleChar c ++ lowerFrom [c] rest)

/-- **Uppercase text.** -/
def uppercase (s : String) : String := String.ofList (s.toList.flatMap upperChar)

end OpenerPolicy.Text
