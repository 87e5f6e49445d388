/-
  File:      OpenerPolicy/Settings/Model.lean
  Subject:   THE SETTINGS: what they are, how they are checked, and their JSON form.

  The settings say where and how much is logged and which policies hold where a handler has none of
  its own. Members of a document that are not known are ignored, and one that is missing has a value
  to stand in for it, except the mode of a policy.

  * `PolicySettings`, `LoggingSettings`, `OpenerSettings`, `Settings` -- the settings and their parts;
  * `PolicySettings.directive`, `PolicySettings.policy?` -- the directive of a policy of the settings,
    and the policy itself, if its group is text;
  * `PolicySettings.check`, `Settings.check` -- settings from a JSON value;
  * `PolicySettings.assign` -- policies cannot be changed;
  * `PolicySettings.toJson`, `Settings.toJson` -- the JSON form, with all members;
  * `PolicySettings.check_toJson` -- the JSON form of a policy is accepted and gives the same policy.
-/
import OpenerPolicy.Policy.Directives
import OpenerPolicy.Settings.Check

namespace OpenerPolicy

open Settings (Checked checkText checkFullText checkToken checkBool checkItems required optional record)

/-! ## 1. The settings -/

/-- A policy as a document gives it: its group can be any string, also one that is no text. -/
structure PolicySettings where
  mode : Mode
  group : Json.Text := .whole ""
  reportOnly : Bool := false
  deriving DecidableEq, Repr

/-- **The directive of a policy of the settings**, with its group as it is. -/
def PolicySettings.directive (p : PolicySettings) : Json.Text :=
  if p.group.isEmpty then .whole p.mode.token
  else .ofPoints (Text.points (p.mode.token ++ "; " ++ reportToParameter ++ " \"") ++ p.group.points
    ++ Text.points "\"")

/-- The policy, if its group is text, as a header needs it. -/
def PolicySettings.policy? (p : PolicySettings) : Option Policy :=
  match p.group with
  | .whole group => some ⟨p.mode, group, p.reportOnly⟩
  | .torn _ => none

/-- How much is logged. -/
inductive LogLevel where
  | debug
  | info
  | warning
  deriving DecidableEq, Repr

def LogLevel.name : LogLevel → String
  | .debug => "DEBUG"
  | .info => "INFO"
  | .warning => "WARNING"

/-- The levels under their names. -/
def LogLevel.table : List (String × LogLevel) :=
  [LogLevel.debug, .info, .warning].map fun l => (l.name, l)

/-- Where and how much is logged. -/
structure LoggingSettings where
  /-- The directory for logs; without one there is no log file. -/
  directory : Option String := none
  level : LogLevel := .info
  deriving DecidableEq, Repr

/-- The policies that hold where a handler has none of its own. -/
structure OpenerSettings where
  policies : List PolicySettings := [⟨.sameOrigin, .whole "", false⟩]
  deriving DecidableEq, Repr

structure Settings where
  logging : LoggingSettings := {}
  opener : OpenerSettings := {}
  deriving DecidableEq, Repr

/-! ## 2. From JSON -/

/-- The modes under their tokens. -/
def Mode.table : List (String × Mode) := Mode.all.map fun m => (m.token, m)

/-- **A policy from a JSON value.** -/
def PolicySettings.check (j : Json) : Checked PolicySettings :=
  record "Policy" j <|
    ((required j "mode" (checkToken Mode.table)).and
      ((optional j "reporting_group" (.whole "") checkText).and
        (optional j "report_only" false checkBool))).map
      fun (mode, group, reportOnly) => ⟨mode, group, reportOnly⟩

/-- Text that is not empty, or null for none. -/
def checkDirectory : Json → Checked (Option String)
  | .null => .ok none
  | j => (checkFullText j).map some

def LoggingSettings.check (j : Json) : Checked LoggingSettings :=
  record "LoggingConfig" j <|
    ((optional j "log_dir" none checkDirectory).and
      (optional j "log_level" .info (checkToken LogLevel.table))).map
      fun (directory, level) => ⟨directory, level⟩

def OpenerSettings.check (j : Json) : Checked OpenerSettings :=
  record "CoopConfig" j <|
    (optional j "policies" ({} : OpenerSettings).policies (checkItems PolicySettings.check)).map
      fun policies => ⟨policies⟩

/-- **Settings from a JSON value.** -/
def Settings.check (j : Json) : Checked Settings :=
  record "AppConfig" j <|
    ((optional j "logging" {} LoggingSettings.check).and
      (optional j "coop" {} OpenerSettings.check)).map
      fun (logging, opener) => ⟨logging, opener⟩

/-- **A policy after a change of one of its fields**, which is refused whatever the field. A name that
    starts with an underscore is no field: it can be given a value, and the policy stays as it is. -/
def PolicySettings.assign (p : PolicySettings) (name : String) : Checked PolicySettings :=
  if name.toList.head? = some '_' then .ok p
  else (Checked.fail .frozen).under (.member name)

/-! ## 3. To JSON -/

/-- **The JSON form of a policy.** -/
def PolicySettings.toJson (p : PolicySettings) : Json :=
  .object
    [("mode", .str p.mode.token), ("reporting_group", .text p.group), ("report_only", .bool p.reportOnly)]

def LoggingSettings.toJson (s : LoggingSettings) : Json :=
  .object [("log_dir", .ofOption .str s.directory), ("log_level", .str s.level.name)]

def OpenerSettings.toJson (s : OpenerSettings) : Json :=
  .object [("policies", .list (s.policies.map PolicySettings.toJson))]

/-- **The JSON form of settings.** -/
def Settings.toJson (s : Settings) : Json :=
  .object [("logging", s.logging.toJson), ("coop", s.opener.toJson)]

/-! ## 4. Small facts -/

/-- The JSON form of a policy is accepted and gives the same policy. -/
theorem PolicySettings.check_toJson (p : PolicySettings) : PolicySettings.check p.toJson = .ok p := by
  obtain ⟨m, g, r⟩ := p
  cases m <;> rfl

end OpenerPolicy
