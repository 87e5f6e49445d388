/-
  File:      OpenerPolicy/Policy/Directives.lean
  Subject:   CROSS-ORIGIN OPENER POLICIES AND THEIR DIRECTIVES.

  A policy is an isolation mode, a reporting group and whether it is enforced or only reported. Its
  directive is the mode's token, followed by the group between double quotes if there is one; the
  group stands there as it is. A list of policies gives two lists of directives, one for each header.

  * `Mode`, `Mode.token`, `Mode.ofToken?` -- the three modes and their tokens;
  * `Policy`, `Policy.directive` -- a policy and the line it puts on its header;
  * `Directives`, `Directives.ofPolicies` -- the lines of both headers, in the order of the policies;
  * `ofToken?_token` -- a mode is known by its token.
-/

namespace OpenerPolicy

/-! ## 1. Names on the wire -/

/-- The header of enforced policies. -/
def openerHeader : String := "Cross-Origin-Opener-Policy"

/-- The header of policies that are only reported. -/
def reportOnlyHeader : String := "Cross-Origin-Opener-Policy-Report-Only"

/-- The parameter that names a reporting group. -/
def reportToParameter : String := "report-to"

/-! ## 2. Modes -/

/-- How far a window is cut off from windows of other origins. -/
inductive Mode where
  /-- Only windows of the same origin stay reachable. -/
  | sameOrigin
  /-- Popups opened from here stay reachable too. -/
  | sameOriginAllowPopups
  /-- Nothing is cut off. -/
  | unsafeNone
  deriving DecidableEq, Repr

namespace Mode

def all : List Mode := [.sameOrigin, .sameOriginAllowPopups, .unsafeNone]

/-- **The token of a mode**, as it stands in headers and documents. -/
def token : Mode → String
  | .sameOrigin => "same-origin"
  | .sameOriginAllowPopups => "same-origin-allow-popups"
  | .unsafeNone => "unsafe-none"

/-- The mode of a token; no other spelling is accepted. -/
def ofToken? (s : String) : Option Mode := all.find? (·.token = s)

@[simp] theorem ofToken?_token (m : Mode) : ofToken? m.token = some m := by
  cases m <;> simp [ofToken?, all, token]

end Mode

/-! ## 3. Policies -/

/-- A single policy. -/
structure Policy where
  mode : Mode
  /-- The group that violations are reported to; empty for none. -/
  group : String := ""
  reportOnly : Bool := false
  deriving DecidableEq, Repr

/-- **The directive of a policy.** The group is not escaped. -/
def Policy.directive (p : Policy) : String :=
  if p.group = "" then p.mode.token
  else p.mode.token ++ "; " ++ reportToParameter ++ " \"" ++ p.group ++ "\""

/-! ## 4. The directives of both headers -/

/-- The directives of both headers. -/
structure Directives where
  enforced : List String := []
  reportOnly : List String := []
  deriving DecidableEq, Repr

namespace Directives

/-- **The directives of policies**, in their order. None is dropped and none is merged. -/
def ofPolicies (policies : List Policy) : Directives :=
  ⟨(policies.filter (!·.reportOnly)).map Policy.directive,
    (policies.filter (·.reportOnly)).map Policy.directive⟩

/-- The policies in force where nothing else is said: same origin, perhaps with a group. -/
def standard (group : String) : Directives := ofPolicies [⟨.sameOrigin, group, false⟩]

end Directives

end OpenerPolicy
