/-
  File:      OpenerPolicy/Log/Logger.lean
  Subject:   THE SYSTEM LOGGER: one logger, its level and its sinks.

  The logger is made on first use, with the console as its only sink. A log file can be added once;
  it receives warnings and whatever is worse. A reset closes all sinks, and the next use makes the
  logger anew.

  * `Level`, `Level.check` -- levels, and which values stand for one;
  * `Logger`, `Logger.unused` -- the state, and what it is before anything was done;
  * `Logger.ensure`, `Logger.reset` -- first use and reset;
  * `Logger.setLevel` -- sets the level by name or number; a level that is refused changes nothing;
  * `Logger.addFile` -- adds the log file, unless one was added since the last reset;
  * `Logger.admits`, `Sink.admits` -- the two thresholds a record has to pass;
  * `Logger.log` -- writes a record to every sink that admits it; where the written form of a record
    has a fault, that sink gets nothing; a level without a name is a fault of the call itself.
-/
import OpenerPolicy.Files.Tree
import OpenerPolicy.Log.Record
import OpenerPolicy.Text.Encoding

namespace OpenerPolicy.Log

open Files

/-! ## 1. Levels -/

/-- Why a level is refused. -/
inductive LevelFault where
  | unknownName (name : Json.Text)
  /-- A value that is neither a number nor a name; its literal is given. -/
  | noLevel (given : Json.Text)
  /-- A value that has no text to be compared with names, or no literal. -/
  | value (f : ValueFault)
  deriving DecidableEq, Repr

def LevelFault.message : LevelFault → String
  | .unknownName name => s!"Unknown level: {Text.quotedPoints Text.isPrintable name.points}"
  | .noLevel given => s!"Level not an integer or a valid string: {given.legible}"
  | .value f => f.message

/-- A level as it was given. -/
inductive Level where
  | number (n : Int)
  | flag (b : Bool)
  deriving DecidableEq, Repr

/-- **The number of a level.** Truth values stand for 0 and 1. -/
def Level.value : Level → Int
  | .number n => n
  | .flag b => if b then 1 else 0

/-- The severity of a name; a string that is no text names none. -/
def severity? : Json.Text → Option Int
  | .whole name => severities.lookup name
  | .torn _ => none

/-- **A level from a value**: a number, a truth value, or a name as it is spelled in `severities`. -/
def Level.check : Value → Except LevelFault Level
  | .int n => .ok (.number n)
  | .bool b => .ok (.flag b)
  | .text name =>
    match severity? name with
    | some n => .ok (.number n)
    | none => .error (.unknownName name)
  | v => do
    let _ ← v.display.mapError .value
    let given ← v.literal.mapError .value
    .error (.noLevel (.ofPoints given))

/-! ## 2. Sinks -/

/-- Where records go. -/
inductive Sink where
  | console
  | file (location : Location)
  /-- A sink of someone else that writes nothing. -/
  | silent (level : Level)
  deriving DecidableEq, Repr

def Sink.threshold : Sink → Int
  | .console => debug
  | .file _ => warning
  | .silent level => level.value

def Sink.admits (s : Sink) (level : Int) : Bool := s.threshold ≤ level

/-- **What a sink does with a record**: the tree afterwards, and the text on the console, where a
    surrogate that stands alone is written by its number. -/
def Sink.write (s : Sink) (t : Tree) (r : Record) : Tree × String :=
  match s with
  | .console =>
    match r.console with
    | .ok text => (t, text.legible ++ "\n")
    | .error _ => (t, "")
  | .file l =>
    match r.line with
    | .ok text => (t.append l (Text.utf8Bytes (text ++ "\n")), "")
    | .error _ => (t, "")
  | .silent _ => (t, "")

/-! ## 3. The logger -/

/-- The state of the logger. Before first use, and after a reset, it is not `live`. -/
structure Logger where
  level : Int
  sinks : List Sink
  /-- Records go on to the logger above as well. -/
  propagates : Bool
  live : Bool
  /-- A log file was added since the last reset. -/
  fileAdded : Bool
  deriving DecidableEq, Repr

/-- The level that stands in for level 0. -/
def fallbackLevel : Int := warning

namespace Logger

/-- The logger before anything was done: it has no level of its own and no sinks. -/
def unused : Logger := ⟨0, [], true, false, false⟩

/-- The logger as it is made on first use. It has a level and a sink of its own, and keeps its
    records to itself. -/
def fresh : Logger := ⟨info, [.console], false, true, false⟩

/-- **The logger, made if need be.** Whatever sinks were left are dropped then. -/
def ensure (g : Logger) : Logger :=
  if g.live then g else { fresh with fileAdded := g.fileAdded }

/-- **Closes all sinks**; the next use makes the logger anew. -/
def reset (g : Logger) : Logger :=
  { g with sinks := if g.live then [] else g.sinks, live := false, fileAdded := false }

/-- **A sink added from outside**, whether the logger is live or not. -/
def addForeign (g : Logger) (level : Value) : Logger × Except LevelFault Unit :=
  match Level.check level with
  | .ok level => ({ g with sinks := g.sinks ++ [.silent level] }, .ok ())
  | .error f => (g, .error f)

/-- **Sets the level.** -/
def setLevel (g : Logger) (level : Value) : Logger × Except LevelFault Unit :=
  let g := g.ensure
  match Level.check level with
  | .ok level => ({ g with level := level.value }, .ok ())
  | .error f => (g, .error f)

/-- **Adds the log file at a path**, with the directories above it. -/
def addFile (g : Logger) (t : Tree) (p : Path) : Logger × Tree × Except FileFault Unit :=
  if g.fileAdded then (g, t, .ok ())
  else
    let g := g.ensure
    match t.makeDirs p.parent with
    | (t, .error f) => (g, t, .error f)
    | (t, .ok ()) =>
      let target := t.absolute p
      match t.locate target >>= fun l => (t.update l id).map fun t => (l, t) with
      | .error o => (g, t, .error ⟨o, target.text⟩)
      | .ok (l, t) =>
        ({ g with sinks := g.sinks ++ [.file l], fileAdded := true }, t, .ok ())

/-- The level that counts: level 0 leaves the decision to `fallbackLevel`. -/
def threshold (g : Logger) : Int := if g.level = 0 then fallbackLevel else g.level

/-- **Whether a record is handed to the sinks at all.** Only positive levels ever are. -/
def admits (g : Logger) (level : Int) : Bool := 0 < level && g.threshold ≤ level

/-- A record written to sinks, one after the other. -/
def writeAll (t : Tree) (r : Record) : List Sink → Tree × String
  | [] => (t, "")
  | s :: rest =>
    let (t, shown) := if s.admits r.level then s.write t r else (t, "")
    let (t, more) := writeAll t r rest
    (t, shown ++ more)

/-- **Logs a record**: the logger, the tree, and the text on the console. A record that is to be handed
    to the sinks needs a name for its level; without one the call fails. -/
def log (g : Logger) (t : Tree) (r : Record) : Logger × Tree × Except ValueFault String :=
  let g := g.ensure
  if g.admits r.level then
    match levelName r.level with
    | .ok _ =>
      let (t, shown) := writeAll t r g.sinks
      (g, t, .ok shown)
    | .error f => (g, t, .error f)
  else (g, t, .ok "")

/-- Logs notices given at one time, in order, up to the first that fails. -/
def logAll (g : Logger) (t : Tree) (created : Time.Clock) :
    List Notice → Logger × Tree × Except ValueFault String
  | [] => (g, t, .ok "")
  | n :: rest =>
    match g.log t { n with created } with
    | (g, t, .error f) => (g, t, .error f)
    | (g, t, .ok shown) =>
      let (g, t, more) := logAll g t created rest
      (g, t, more.map (shown ++ ·))

/-! ## 4. Small facts -/

@[simp] theorem ensure_live (g : Logger) : g.ensure.live = true := by
  unfold ensure
  split
  · assumption
  · rfl

/-- Logging a record does no more to the logger than asking for it. -/
theorem fst_log (g : Logger) (t : Tree) (r : Record) : (g.log t r).1 = g.ensure := by
  unfold log
  dsimp only
  split
  · split <;> rfl
  · rfl

end Logger

end OpenerPolicy.Log
