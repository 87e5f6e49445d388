/-
  File:      OpenerPolicy/Time/Timestamp.lean
  Subject:   SECONDS SINCE 1970 AS UTC TIMESTAMPS WITH MILLISECONDS.

  A clock reading is a whole number of seconds or a double. It is rounded to microseconds first and
  then cut to milliseconds, so a reading just below a second shows the next one only if it is within
  half a microsecond of it.

  * `Clock`, `Clock.micros` -- a reading, and its microseconds since the start of 1970;
  * `Timestamp.text` -- the 24 characters `YYYY-MM-DDTHH:MM:SS.mmmZ`;
  * `timestamp` -- both together; a year outside 1 to 9999 is a fault.
-/
import OpenerPolicy.Number.Decimal
import OpenerPolicy.Time.Calendar

namespace OpenerPolicy.Time

open Number

/-- Why a reading has no timestamp. -/
inductive TimeFault where
  | beyondClock
  | beyondCalendar
  | notANumber
  | yearOutOfRange (year : Int)
  deriving DecidableEq, Repr

def TimeFault.message : TimeFault → String
  | .beyondClock => "timestamp out of range for platform time_t"
  | .beyondCalendar => "[Errno 75] Value too large for defined data type"
  | .notANumber => "Invalid value NaN (not a number)"
  | .yearOutOfRange year => s!"year {year} is out of range"

/-- A clock reading in seconds since the start of 1970. -/
inductive Clock where
  | whole (seconds : Int)
  | binary (seconds : Binary64)
  deriving DecidableEq, Repr

/-! ## 1. Microseconds -/

def microsPerSecond : Nat := 1000000

/-- The number of microseconds in a fraction `num / den` of a second: the product is rounded to a
    double, and this to the nearest integer. -/
def fractionMicros (num den : Nat) : Nat :=
  match Binary64.ofRatio false (num * microsPerSecond) den with
  | .finite _ m e => roundDiv (Binary64.scaled m e).1 (Binary64.scaled m e).2
  | _ => 0

/-- Seconds a clock can hold. -/
def clockHolds (seconds : Int) : Bool := -(Nat.pow 2 63 : Int) ≤ seconds && seconds < Nat.pow 2 63

/-- **Microseconds since the start of 1970.** -/
def Clock.micros : Clock → Except TimeFault Int
  | .whole seconds =>
    if clockHolds seconds then .ok (seconds * microsPerSecond) else .error .beyondClock
  | .binary (.finite negative m e) =>
    let (num, den) := Binary64.scaled m e
    let size : Int := (num / den) * microsPerSecond + fractionMicros (num % den) den
    let micros := if negative then -size else size
    if clockHolds (micros / microsPerSecond) then .ok micros else .error .beyondClock
  | .binary .nan => .error .notANumber
  | .binary (.infinite _) => .error .beyondClock

/-! ## 2. Dates and times of day -/

/-- A date and the milliseconds passed since its midnight. -/
structure Timestamp where
  date : Date
  millis : Nat
  deriving DecidableEq, Repr

def millisPerDay : Int := 86400000

/-- The day number of the first of January 1970. -/
def epochDay : Int := 719162

/-- The date and time of day of a number of milliseconds since the start of 1970. -/
def Timestamp.ofMillis (millis : Int) : Timestamp :=
  ⟨.ofDay (epochDay + millis / millisPerDay), (millis % millisPerDay).toNat⟩

/-- A number with leading zeros. -/
def padded (width n : Nat) : String :=
  let digits := digitChars n
  String.ofList (List.replicate (width - digits.length) '0' ++ digits)

/-- **The text of a timestamp**, `YYYY-MM-DDTHH:MM:SS.mmmZ`. -/
def Timestamp.text (t : Timestamp) : String :=
  padded 4 t.date.year.toNat ++ "-" ++ padded 2 t.date.month ++ "-" ++ padded 2 t.date.day ++ "T"
    ++ padded 2 (t.millis / 3600000) ++ ":" ++ padded 2 (t.millis / 60000 % 60) ++ ":"
    ++ padded 2 (t.millis / 1000 % 60) ++ "." ++ padded 3 (t.millis % 1000) ++ "Z"

/-- Years the calendar of the machine holds: 1900 plus a number of 32 bits. -/
def calendarHolds (year : Int) : Bool :=
  -(Nat.pow 2 31 : Int) ≤ year - 1900 && year - 1900 < Nat.pow 2 31

/-- **The timestamp of a clock reading.** -/
def timestamp (c : Clock) : Except TimeFault Timestamp := do
  let micros ← c.micros
  let t := Timestamp.ofMillis (micros / 1000)
  if !calendarHolds t.date.year then .error .beyondCalendar
  else if t.date.year < 1 ∨ 9999 < t.date.year then
    .error (.yearOutOfRange (Int.bmod t.date.year (Nat.pow 2 32)))
  else .ok t

end OpenerPolicy.Time
