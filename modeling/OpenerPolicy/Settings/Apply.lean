/-
  File:      OpenerPolicy/Settings/Apply.lean
  Subject:   SETTINGS PUT INTO EFFECT.

  * `Settings.logPath` -- the log file of the settings, if they name a directory for logs;
  * `Settings.configureLogging` -- sets the level of the logger and adds the log file;
  * `OpenerSettings.enforced`, `OpenerSettings.reportOnly` -- the directives of the policies, for either
    header;
  * `OpenerSettings.directives?` -- the same as an interceptor holds them, if they are text;
  * `OpenerSettings.notice` -- the notice that they are in force.
-/
import OpenerPolicy.Log.Logger
import OpenerPolicy.Settings.Model

namespace OpenerPolicy

open Files

/-- The name of the program, and of its directory for logs. -/
def programName : String := "coop-guard"

def programVersion : String := "0.1.0"

/-- The name of the log file. -/
def logFileName : String := "system.jsonl"

/-- The name of the system logger. -/
def loggerName : String := programName ++ ".system"

/-! ## 1. Logging -/

/-- **The log file of the settings.** -/
def Settings.logPath (s : Settings) (homes : Homes) : Except HomeFault (Option Path) :=
  match s.logging.directory with
  | none => .ok none
  | some directory =>
    ((Path.parse directory).expandHome homes).map fun base =>
      some (base.join [programName, logFileName])

/-- Why logging cannot be set up. -/
inductive LoggingFault where
  | home (f : HomeFault)
  | file (f : FileFault)
  deriving DecidableEq, Repr

/-- **Sets the level of the logger and adds the log file.** A level that was set stays set when the
    log file cannot be added. -/
def Settings.configureLogging (s : Settings) (homes : Homes) (g : Log.Logger) (t : Tree) :
    Log.Logger × Tree × Except LoggingFault Unit :=
  let (g, _) := g.setLevel (.str s.logging.level.name)
  match s.logPath homes with
  | .error f => (g, t, .error (.home f))
  | .ok none => (g, t, .ok ())
  | .ok (some path) =>
    let (g, t, outcome) := g.addFile t path
    (g, t, outcome.mapError .file)

/-! ## 2. Policies -/

/-- The directives of the policies that are enforced. -/
def OpenerSettings.enforced (s : OpenerSettings) : List Json.Text :=
  (s.policies.filter (!·.reportOnly)).map PolicySettings.directive

/-- The directives of the policies that are only reported. -/
def OpenerSettings.reportOnly (s : OpenerSettings) : List Json.Text :=
  (s.policies.filter (·.reportOnly)).map PolicySettings.directive

/-- **The directives of the policies as an interceptor holds them**, if all groups are text. -/
def OpenerSettings.directives? (s : OpenerSettings) : Option Directives :=
  (s.policies.mapM PolicySettings.policy?).map .ofPolicies

/-- The notice that directives are in force. -/
def OpenerSettings.notice (s : OpenerSettings) : Log.Notice where
  level := Log.info
  message := .object
    [("event", .str "coop_interceptor_configured"),
     ("message", .str ("COOP configured: " ++ toString s.enforced.length ++ " enforced, "
        ++ toString s.reportOnly.length ++ " report-only")),
     ("component", .str "config"),
     ("details", .object
        [("enforced", .list (s.enforced.map .text)), ("report_only", .list (s.reportOnly.map .text))])]

end OpenerPolicy
