/-
  File:      OpenerPolicy/Log/Template.lean
  Subject:   MESSAGE TEMPLATES: text with places for arguments, marked by a percent sign.

  A place is a percent sign, an optional name between round brackets, flags, a width, a precision and
  a letter that says how the argument is shown: `%s`, `%-5s`, `%05d`, `%.2f`, `%(name)s`. Two percent
  signs stand for one. Arguments are taken in order, or by name from an object; a width or precision
  of `*` is itself an argument. Templates and arguments may hold surrogates that stand alone, so all of
  it is done on code points: a surrogate is never a sign of a place, and is kept as it is.

  * `Spec`, `Spec.read` -- a place and how it is read;
  * `Spec.render` -- an argument at a place: sign, base mark and digits, filled to the width;
  * `Template.fill` -- the whole message; too few arguments, positional ones left over, and arguments
    that have no text, are faults.
-/
import OpenerPolicy.Text.Hex
import OpenerPolicy.Value

namespace OpenerPolicy.Log

open OpenerPolicy.Number
open OpenerPolicy.Text (points quotedPoints isPrintable)

/-! ## 1. Faults and arguments -/

/-- Why a template cannot be filled. -/
inductive TemplateFault where
  | notEnoughArguments
  | argumentsLeft
  | mappingExpected
  | missingName (name : Json.Text)
  | incomplete
  | incompleteName
  | unknownLetter (letter : Nat) (index : Nat)
  | starNeedsInteger
  | widthTooBig
  | precisionTooBig
  /-- The precision is one that a place can have, but no integer. -/
  | precisionTooLarge
  | integerExpected (letter : Char) (kind : String)
  | numberExpected (letter : Char) (kind : String)
  | realExpected (kind : String)
  | characterExpected
  | characterRange
  | infiniteInteger
  | nanInteger
  | integerTooLarge
  | starTooLarge (target : String)
  /-- The template, or an argument, has no text. -/
  | value (f : ValueFault)
  deriving DecidableEq, Repr

def TemplateFault.message : TemplateFault → String
  | .notEnoughArguments => "not enough arguments for format string"
  | .argumentsLeft => "not all arguments converted during string formatting"
  | .mappingExpected => "format requires a mapping"
  | .missingName name => quotedPoints isPrintable name.points
  | .incomplete => "incomplete format"
  | .incompleteName => "incomplete format key"
  | .unknownLetter letter index =>
    let shown := if 31 ≤ letter && letter ≤ 126 then Char.ofNat letter else '?'
    let digits := String.ofList (Nat.toDigits 16 letter)
    s!"unsupported format character '{shown}' (0x{digits}) at index {index}"
  | .starNeedsInteger => "* wants int"
  | .widthTooBig => "width too big"
  | .precisionTooBig => "precision too big"
  | .precisionTooLarge => "precision too large"
  | .integerExpected letter kind => s!"%{letter} format: an integer is required, not {kind}"
  | .numberExpected letter kind => s!"%{letter} format: a real number is required, not {kind}"
  | .realExpected kind => s!"must be real number, not {kind}"
  | .characterExpected => "%c requires int or char"
  | .characterRange => "%c arg not in range(0x110000)"
  | .infiniteInteger => "cannot convert float infinity to integer"
  | .nanInteger => "cannot convert float NaN to integer"
  | .integerTooLarge => "int too large to convert to float"
  | .starTooLarge target => s!"Python int too large to convert to C {target}"
  | .value f => f.message

/-- The arguments of a template. -/
inductive Arguments where
  | positional (values : List Value)
  | named (fields : Value)

/-- **The arguments of a message**: a single object with members gives them by name. -/
def Arguments.ofList : List Value → Arguments
  | [.members (field :: fields)] => .named (.members (field :: fields))
  | values => .positional values

/-- The values that are still to be taken. An object counts as a single value as a whole. -/
def Arguments.start : Arguments → List Value
  | .positional values => values
  | .named fields => [fields]

/-! ## 2. Places -/

/-- A place for an argument. -/
structure Spec where
  left : Bool := false
  plus : Bool := false
  blank : Bool := false
  mark : Bool := false
  zero : Bool := false
  width : Nat := 0
  precision : Option Nat := none
  /-- The code point of the letter. -/
  letter : Nat := 's'.toNat

/-- A number after the percent sign: none, digits, or a star. -/
inductive Measure where
  | absent
  | digits (n : Nat)
  | star

def maxWidth : Nat := Nat.pow 2 63 - 1

def maxPrecision : Nat := Nat.pow 2 31 - 1

/-- The largest precision of an integer. -/
def maxIntegerPrecision : Nat := maxPrecision - 3

/-- The name between round brackets, which may hold brackets in pairs; `depth` counts open ones. -/
def readName (depth : Nat) : List Nat → Option (List Nat × List Nat)
  | [] => none
  | c :: rest =>
    match Char.ofNat c, depth with
    | ')', 0 => some ([], rest)
    | ')', depth + 1 => (readName depth rest).map fun (name, after) => (c :: name, after)
    | '(', depth => (readName (depth + 1) rest).map fun (name, after) => (c :: name, after)
    | _, depth => (readName depth rest).map fun (name, after) => (c :: name, after)

def readFlags (spec : Spec) : List Nat → Spec × List Nat
  | [] => (spec, [])
  | c :: rest =>
    match Char.ofNat c with
    | '-' => readFlags { spec with left := true } rest
    | '+' => readFlags { spec with plus := true } rest
    | ' ' => readFlags { spec with blank := true } rest
    | '#' => readFlags { spec with mark := true } rest
    | '0' => readFlags { spec with zero := true } rest
    | _ => (spec, c :: rest)

def isDigit (c : Nat) : Bool := (Char.ofNat c).isDigit

def digitsValue (digits : List Nat) : Nat := digits.foldl (fun n c => 10 * n + (c - 0x30)) 0

def readMeasure (s : List Nat) : Measure × List Nat :=
  if s.head? = some '*'.toNat then (.star, s.tail)
  else
    let digits := s.takeWhile isDigit
    (if digits.isEmpty then .absent else .digits (digitsValue digits), s.dropWhile isDigit)

/-- Takes the next argument. -/
def takeValue : List Value → Except TemplateFault (Value × List Value)
  | [] => .error .notEnoughArguments
  | value :: rest => .ok (value, rest)

/-- Takes an integer for a star. -/
def takeStar (limit : Nat) (target : String) (values : List Value) :
    Except TemplateFault (Int × List Value) := do
  let (value, rest) ← takeValue values
  let n ← match value with
    | .int n => .ok n
    | .bool b => .ok (if b then 1 else 0)
    | _ => .error .starNeedsInteger
  if (limit : Int) < n ∨ n < -(limit : Int) - 1 then .error (.starTooLarge target) else .ok (n, rest)

/-- The width: a negative one given by a star is a flag to the left and a width. -/
def readWidth (spec : Spec) (values : List Value) (s : List Nat) :
    Except TemplateFault (Spec × List Value × List Nat) :=
  match readMeasure s with
  | (.absent, rest) => .ok (spec, values, rest)
  | (.digits n, rest) =>
    if maxWidth < n then .error .widthTooBig else .ok ({ spec with width := n }, values, rest)
  | (.star, rest) => do
    let (n, values) ← takeStar maxWidth "ssize_t" values
    return ({ spec with width := n.natAbs, left := spec.left || n < 0 }, values, rest)

/-- The precision after a point; without digits it is zero. -/
def readPrecision (spec : Spec) (values : List Value) (s : List Nat) :
    Except TemplateFault (Spec × List Value × List Nat) :=
  if s.head? = some '.'.toNat then
    match readMeasure s.tail with
    | (.absent, rest) => .ok ({ spec with precision := some 0 }, values, rest)
    | (.digits n, rest) =>
      if maxPrecision < n then .error .precisionTooBig
      else .ok ({ spec with precision := some n }, values, rest)
    | (.star, rest) => do
      let (n, values) ← takeStar maxPrecision "int" values
      return ({ spec with precision := some n.toNat }, values, rest)
  else .ok (spec, values, s)

/-- A letter that says how long a number is has no effect. -/
def skipLength : List Nat → List Nat
  | [] => []
  | c :: rest => if "hlL".toList.contains (Char.ofNat c) then rest else c :: rest

/-- **A place, from after its name to after its letter**, and the arguments that its stars leave. -/
def Spec.read (values : List Value) (s : List Nat) :
    Except TemplateFault (Spec × List Value × List Nat) := do
  let (spec, s) := readFlags {} s
  let (spec, values, s) ← readWidth spec values s
  let (spec, values, s) ← readPrecision spec values s
  match skipLength s with
  | [] => .error .incomplete
  | letter :: rest => .ok ({ spec with letter }, values, rest)

/-! ## 3. Arguments at a place -/

/-- The code points of characters. -/
def pointsOf (chars : List Char) : List Nat := chars.map Char.toNat

/-- Code points filled with blanks to the width. -/
def Spec.pad (spec : Spec) (points : List Nat) : List Nat :=
  let fill := List.replicate (spec.width - points.length) ' '.toNat
  if spec.left then points ++ fill else fill ++ points

/-- Text cut to the precision and filled to the width. -/
def Spec.text (spec : Spec) (text : List Nat) : List Nat :=
  spec.pad (match spec.precision with
    | some n => text.take n
    | none => text)

/-- **A number filled to its width**: with blanks outside, or with zeros between its sign and base
    mark and its digits. -/
def Spec.number (spec : Spec) (negative : Bool) (base digits : List Char) : List Nat :=
  let sign := if negative then ['-'] else if spec.plus then ['+'] else if spec.blank then [' '] else []
  let head := sign ++ base
  if spec.zero && !spec.left then
    pointsOf (head ++ List.replicate (spec.width - (head.length + digits.length)) '0' ++ digits)
  else spec.pad (pointsOf (head ++ digits))

/-- An integer in a base, with at least as many digits as the precision says. -/
def Spec.integer (spec : Spec) (n : Int) : List Nat :=
  let letter := Char.ofNat spec.letter
  let (radix, mark) := match letter with
    | 'o' => (8, "0o")
    | 'x' => (16, "0x")
    | 'X' => (16, "0X")
    | _ => (10, "")
  let digits := Nat.toDigits radix n.natAbs
  let digits := if letter = 'X' then digits.map Char.toUpper else digits
  let filled := List.replicate (spec.precision.getD 0 - digits.length) '0' ++ digits
  spec.number (n < 0) (if spec.mark then mark.toList else []) filled

/-- An integer, unless its precision is too large. -/
def Spec.checkedInteger (spec : Spec) (n : Int) : Except TemplateFault (List Nat) :=
  if maxIntegerPrecision < spec.precision.getD 0 then .error .precisionTooLarge
  else .ok (spec.integer n)

/-- A decimal integer, which must not have too many digits either. -/
def Spec.decimalInteger (spec : Spec) (n : Int) : Except TemplateFault (List Nat) := do
  let shown ← spec.checkedInteger n
  let _ ← (decimal n).mapError .value
  return shown

/-- The integer an argument stands for at a decimal place: a double is cut toward zero. -/
def decimalValue (letter : Char) : Value → Except TemplateFault Int
  | .int n => .ok n
  | .bool b => .ok (if b then 1 else 0)
  | .float .nan => .error .nanInteger
  | .float x =>
    match x.truncate? with
    | some n => .ok n
    | none => .error .infiniteInteger
  | v => .error (.numberExpected letter v.kindName)

/-- The integer an argument stands for at a place of another base. -/
def basedValue (letter : Char) : Value → Except TemplateFault Int
  | .int n => .ok n
  | .bool b => .ok (if b then 1 else 0)
  | v => .error (.integerExpected letter v.kindName)

/-- The double an argument stands for. -/
def realValue : Value → Except TemplateFault Binary64
  | .float x => .ok x
  | .bool b => .ok (.ofRatio false (if b then 1 else 0) 1)
  | .int n =>
    match Binary64.ofInt? n with
    | some x => .ok x
    | none => .error .integerTooLarge
  | v => .error (.realExpected v.kindName)

/-- The code point an argument stands for: that of a string of one, or the number given. Either may be
    one that is no character. -/
def pointValue : Value → Except TemplateFault Nat
  | .text t =>
    match t.points with
    | [c] => .ok c
    | _ => .error .characterExpected
  | .int n => if 0 ≤ n ∧ n < 0x110000 then .ok n.toNat else .error .characterRange
  | .bool b => .ok (if b then 1 else 0)
  | _ => .error .characterExpected

/-- A double with a given number of places or digits; six if none is given. With an exponent, the
    largest precision stands for none at all. -/
def Spec.real (spec : Spec) (x : Binary64) : List Nat :=
  let precision := spec.precision.getD 6
  let letter := Char.ofNat spec.letter
  let digits := match letter.toLower with
    | 'e' => x.scientific spec.mark (if precision = maxPrecision then 0 else precision)
    | 'f' => x.fixed spec.mark precision
    | _ => x.general spec.mark precision
  spec.number x.isNegative [] (if letter.isUpper then digits.map Char.toUpper else digits)

/-- **An argument at a place**, in code points. `index` is the position of the letter in the
    template. -/
def Spec.render (spec : Spec) (index : Nat) (value : Value) : Except TemplateFault (List Nat) :=
  let letter := Char.ofNat spec.letter
  match letter with
  | 's' => (value.display.mapError .value).map fun t => spec.text t.points
  | 'r' => (value.literal.mapError .value).map spec.text
  | 'a' => (value.literalAscii.mapError .value).map spec.text
  | 'd' | 'i' | 'u' => decimalValue letter value >>= spec.decimalInteger
  | 'o' | 'x' | 'X' => basedValue letter value >>= spec.checkedInteger
  | 'e' | 'E' | 'f' | 'F' | 'g' | 'G' => spec.real <$> realValue value
  | 'c' => (fun point => spec.pad [point]) <$> pointValue value
  | _ => .error (.unknownLetter spec.letter index)

/-! ## 4. Whole templates -/

/-- The value under the name at the start of a place, if there is a name: it is then the one value
    to be taken. -/
def takeNamed (arguments : Arguments) (values : List Value) (s : List Nat) :
    Except TemplateFault (List Value × List Nat) :=
  if s.head? = some '('.toNat then
    match arguments with
    | .positional _ => .error .mappingExpected
    | .named fields =>
      match readName 0 s.tail with
      | none => .error .incompleteName
      | some (name, after) =>
        let name := Json.Text.ofPoints name
        match fields.member? name with
        | none => .error (.missingName name)
        | some value => .ok ([value], after)
  else .ok (values, s)

/-- Positional arguments must all be taken. -/
def checkTaken : Arguments → List Value → Except TemplateFault Unit
  | .positional _, _ :: _ => .error .argumentsLeft
  | _, _ => .ok ()

/-- The code points of the message from some place of the template on. Every step takes at least one
    code point, so the length of the template is enough fuel. -/
def fillFrom (size : Nat) (arguments : Arguments) :
    (fuel : Nat) → List Value → List Nat → Except TemplateFault (List Nat)
  | _, values, [] => (fun _ => []) <$> checkTaken arguments values
  | 0, _, _ :: _ => .error .incomplete
  | fuel + 1, values, c :: s =>
    if c ≠ '%'.toNat then (c :: ·) <$> fillFrom size arguments fuel values s
    else if s.head? = some '%'.toNat then
      (c :: ·) <$> fillFrom size arguments fuel values s.tail
    else do
      let (values, s) ← takeNamed arguments values s
      let (spec, values, rest) ← Spec.read values s
      let (value, values) ← takeValue values
      let shown ← spec.render (size - rest.length - 1) value
      return shown ++ (← fillFrom size arguments fuel values rest)

/-- **A template filled with its arguments.** -/
def Template.fill (template : Json.Text) (arguments : Arguments) : Except TemplateFault Json.Text :=
  let s := template.points
  Json.Text.ofPoints <$> fillFrom s.length arguments s.length arguments.start s

end OpenerPolicy.Log
