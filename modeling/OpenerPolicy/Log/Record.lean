/-
  File:      OpenerPolicy/Log/Record.lean
  Subject:   LOG RECORDS AND THEIR TWO WRITTEN FORMS.

  A message is either an object (a structured message) or anything else, shown as a template with its
  arguments. People read the console form, `LEVEL: text`; machines read one JSON object a line, with
  the time and the level first. A record has no written form where a value of it has no text: an
  integer with too many digits, a value whose own text fails, and in the JSON form also a container
  that holds itself and a key of the wrong kind.

  * `levelName` -- the name of a severity;
  * `Notice.text` -- the message of a record that is not structured;
  * `Record.console` -- the console form; of a structured message it shows `message`, or `event` if
    that is void;
  * `Record.line` -- the JSON form; a member of the message named `time` or `level` takes the place
    of the record's own.
-/
import OpenerPolicy.Json.Writer
import OpenerPolicy.Log.Template
import OpenerPolicy.Time.Timestamp

namespace OpenerPolicy.Log

open Time
open OpenerPolicy.Text (points)

/-! ## 1. Severities -/

def debug : Int := 10

def info : Int := 20

def warning : Int := 30

def error : Int := 40

/-- **The name of a severity.** One that has none is named by its number. -/
def levelName (level : Int) : Except ValueFault String :=
  if level = 50 then .ok "CRITICAL"
  else if level = 40 then .ok "ERROR"
  else if level = 30 then .ok "WARNING"
  else if level = 20 then .ok "INFO"
  else if level = 10 then .ok "DEBUG"
  else if level = 0 then .ok "NOTSET"
  else ("Level " ++ ·) <$> decimal level

/-- The names a severity can be chosen by; some have two. -/
def severities : List (String × Int) :=
  [("CRITICAL", 50), ("FATAL", 50), ("ERROR", 40), ("WARN", 30), ("WARNING", 30), ("INFO", 20),
   ("DEBUG", 10), ("NOTSET", 0)]

/-! ## 2. Records -/

/-- What is reported: how severe it is, and a message with its arguments. Members of a structured
    message are seen on their own: a container among them is met again only inside itself. -/
structure Notice where
  level : Int
  message : Value
  arguments : List Value := []

/-- A notice with the time it was given. -/
structure Record extends Notice where
  created : Clock

/-- Why a record has no written form. -/
inductive FormatFault where
  /-- The level has no name. -/
  | level (f : ValueFault)
  | time (f : TimeFault)
  | template (f : TemplateFault)
  /-- A value of a structured message has no text, or no JSON form. -/
  | value (f : ValueFault)
  deriving DecidableEq, Repr

def FormatFault.message : FormatFault → String
  | .level f => f.message
  | .time f => f.message
  | .template f => f.message
  | .value f => f.message

/-- **The message of a record that is not structured.** Without arguments it is no template. -/
def Notice.text (n : Notice) : Except TemplateFault Json.Text := do
  let template ← n.message.display.mapError .value
  if n.arguments.isEmpty then .ok template else Template.fill template (.ofList n.arguments)

/-- What the console shows of a structured message: the member `message`, or `event` if that is
    void, or nothing. -/
def headline (message : Value) : Except ValueFault Value := do
  let text := (message.field? "message").getD .null
  return if ← text.isVoid then (message.field? "event").getD (.str "") else text

/-- **The console form**, `LEVEL: text`. -/
def Record.console (r : Record) : Except FormatFault Json.Text := do
  let level ← (levelName r.level).mapError .level
  let shown ← match r.message with
    | .members _ => (headline r.message >>= Value.display).mapError .value
    | _ => r.text.mapError .template
  return Json.Text.ofPoints (points (level ++ ": ") ++ shown.points)

/-- The members of the JSON form: time and level, then those of the message. -/
def entryFields (time level : String) (fields : List (Key × Value)) : List (Key × Value) :=
  fields.foldl (fun l e => Keyed.put l e.1 e.2)
    [(.text (.whole "time"), .str time), (.text (.whole "level"), .str level)]

/-- The members of the message in the JSON form. -/
def Notice.fields (n : Notice) : Except TemplateFault (List (Key × Value)) :=
  match n.message with
  | .members fields => .ok fields
  | _ => n.text.map fun text => [(.text (.whole "message"), .text text)]

/-- The JSON object of a record. -/
def Record.entry (r : Record) : Except FormatFault Json := do
  let level ← (levelName r.level).mapError .level
  let time ← (timestamp r.created).mapError .time
  let fields ← r.fields.mapError .template
  (Value.members (entryFields time.text level fields)).toJson.mapError .value

/-- **The JSON form**, on one line. -/
def Record.line (r : Record) : Except FormatFault String := r.entry.map Json.compact

end OpenerPolicy.Log
