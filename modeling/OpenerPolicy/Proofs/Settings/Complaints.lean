/-
  File:      OpenerPolicy/Proofs/Settings/Complaints.lean
  Subject:   SETTINGS ARE REFUSED FOR ALL THAT IS WRONG WITH THEM, AND FOR NOTHING ELSE.

  A policy, the settings for logging, those for policies and all settings together are checked in one
  way: the members that are declared, in the order in which they are declared. Each kind of them has a
  shape, and its check reports whatever is wrong with a value of that shape; neither the order of
  members nor members that are not declared make a difference.

  * `PolicySettings.shape`, `LoggingSettings.shape`, `OpenerSettings.shape`, `Settings.shape` -- the shapes;
  * `plain_checkToken`, `plain_checkText`, `plain_checkBool`, `plain_checkDirectory` -- the checks of
    single members look at a value as a whole;
  * `Model` -- the four kinds; `Model.reports`, `Model.reads` -- their checks;
  * `splitOn_issueLines` -- complaints are printed one a line;
  * **`check_outcome`** -- when a value is accepted, what is reported otherwise, and that rearranging
    the value changes neither.
-/
import OpenerPolicy.Proofs.Json.Layout
import OpenerPolicy.Proofs.Settings.Loading
import OpenerPolicy.Proofs.Settings.Rearrangement
import OpenerPolicy.Proofs.Settings.Reports
import OpenerPolicy.Proofs.Text.Ascii

namespace OpenerPolicy

open Settings Files

/-! ## 1. Checks of single members -/

namespace Settings

/-- The shape of a value that is looked at as a whole. -/
def Shape.plainOf {α : Type} (check : Json → Checked α) : Shape := .plain fun j => (check j).flaw?

section Plain

variable {α : Type}

theorem plain_ok (a : α) : Plain (.ok a : Checked α) := Or.inl ⟨a, rfl⟩

theorem plain_fail {c : Complaint} (h : '\n' ∉ c.message.toList) : Plain (Checked.fail c : Checked α) :=
  Or.inr ⟨c, rfl, h⟩

theorem plain_checkToken {table : List (String × α)}
    (h : '\n' ∉ (Complaint.notOneOf (table.map Prod.fst)).message.toList) (j : Json) :
    Plain (checkToken table j) := by
  unfold checkToken
  split
  · split
    · exact plain_ok _
    · exact plain_fail h
  · exact plain_fail (by decide)
  · exact plain_fail h

theorem plain_checkText (j : Json) : Plain (checkText j) := by
  unfold checkText
  split
  · exact plain_ok _
  · exact plain_fail (by decide)

theorem plain_checkFlag (n : Int) : Plain (checkFlag n) := by
  unfold checkFlag
  split
  · exact plain_ok _
  split
  · exact plain_ok _
  · exact plain_fail (by decide)

theorem plain_checkBool (j : Json) : Plain (checkBool j) := by
  have hnumber (n : Int) (p : Prop) [Decidable p] :
      Plain (if p then checkFlag n else Checked.fail .notBool) := by
    split
    · exact plain_checkFlag n
    · exact plain_fail (by decide)
  unfold checkBool
  split
  · exact plain_ok _
  · exact hnumber _ _
  · split
    · exact hnumber _ _
    · exact plain_fail (by decide)
  · split
    · exact plain_ok _
    · exact plain_fail (by decide)
  · exact plain_fail (by decide)
  · exact plain_fail (by decide)

theorem plain_checkDirectory (j : Json) : Plain (checkDirectory j) := by
  have hfull : Plain (checkFullText j) := by
    unfold checkFullText
    split
    · split
      · exact plain_fail (by decide)
      · exact plain_ok _
    · exact plain_fail (by decide)
    · exact plain_fail (by decide)
  unfold checkDirectory
  split
  · exact plain_ok _
  · rcases hfull with ⟨s, hs⟩ | ⟨c, hc, hline⟩
    · rw [hs]
      exact plain_ok (some s)
    · rw [hc]
      exact plain_fail hline

theorem checkToken_hollow (table : List (String × α)) (j : Json) :
    checkToken table (hollow j) = checkToken table j := by
  cases j <;> rfl

theorem checkText_hollow (j : Json) : checkText (hollow j) = checkText j := by
  cases j <;> rfl

theorem checkBool_hollow (j : Json) : checkBool (hollow j) = checkBool j := by
  cases j <;> rfl

theorem checkDirectory_hollow (j : Json) : checkDirectory (hollow j) = checkDirectory j := by
  cases j <;> rfl

end Plain

end Settings

/-! ## 2. The shapes of settings -/

/-- The members of a policy, which needs its mode. -/
def PolicySettings.declared : List (Declared Shape) :=
  [⟨"mode", true, .plainOf (checkToken Mode.table)⟩, ⟨"reporting_group", false, .plainOf checkText⟩,
   ⟨"report_only", false, .plainOf checkBool⟩]

def PolicySettings.shape : Shape := .record "Policy" PolicySettings.declared

def LoggingSettings.declared : List (Declared Shape) :=
  [⟨"log_dir", false, .plainOf checkDirectory⟩,
   ⟨"log_level", false, .plainOf (checkToken LogLevel.table)⟩]

def LoggingSettings.shape : Shape := .record "LoggingConfig" LoggingSettings.declared

def OpenerSettings.declared : List (Declared Shape) := [⟨"policies", false, .list PolicySettings.shape⟩]

def OpenerSettings.shape : Shape := .record "CoopConfig" OpenerSettings.declared

/-- The members of settings. -/
def Settings.declared : List (Declared Shape) :=
  [⟨"logging", false, LoggingSettings.shape⟩, ⟨"coop", false, OpenerSettings.shape⟩]

def Settings.shape : Shape := .record "AppConfig" Settings.declared

/-! ## 3. Their checks -/

theorem PolicySettings.reports (j : Json) : Reports PolicySettings.shape j (PolicySettings.check j) := by
  refine Reports.record (by decide) fun fields hj => ?_
  subst hj
  refine Reports.map (Reports.and (by decide) ?_ (Reports.and (by decide) ?_ ?_)) _
  · exact Reports.required (by decide) fun value => .plain (plain_checkToken (by decide) value)
  · exact Reports.optional (by decide) (Json.Text.whole "") fun value => .plain (plain_checkText value)
  · exact Reports.optional (by decide) false fun value => .plain (plain_checkBool value)

theorem LoggingSettings.reports (j : Json) :
    Reports LoggingSettings.shape j (LoggingSettings.check j) := by
  refine Reports.record (by decide) fun fields hj => ?_
  subst hj
  refine Reports.map (Reports.and (by decide) ?_ ?_) _
  · exact Reports.optional (by decide) none fun value => .plain (plain_checkDirectory value)
  · exact Reports.optional (by decide) LogLevel.info fun value =>
      .plain (plain_checkToken (by decide) value)

theorem OpenerSettings.reports (j : Json) : Reports OpenerSettings.shape j (OpenerSettings.check j) := by
  refine Reports.record (by decide) fun fields hj => ?_
  subst hj
  refine Reports.map ?_ _
  exact Reports.optional (by decide) _ fun value => .items PolicySettings.reports value

theorem Settings.reports (j : Json) : Reports Settings.shape j (Settings.check j) := by
  refine Reports.record (by decide) fun fields hj => ?_
  subst hj
  refine Reports.map (Reports.and (by decide) ?_ ?_) _
  · exact Reports.optional (by decide) ({} : LoggingSettings) LoggingSettings.reports
  · exact Reports.optional (by decide) ({} : OpenerSettings) OpenerSettings.reports

theorem PolicySettings.reads : Reads PolicySettings.shape PolicySettings.check := by
  have hnames : (PolicySettings.declared.map Declared.name).Nodup := by decide
  refine Reads.record fun fields => ?_
  have hmode := Reads.required hnames List.mem_cons_self
    (.plain _ (checkToken_hollow Mode.table)) fields
  have hgroup := Reads.optional hnames (List.mem_cons_of_mem _ List.mem_cons_self)
    (Json.Text.whole "") (.plain _ checkText_hollow) fields
  have hflag := Reads.optional hnames
    (List.mem_cons_of_mem _ (List.mem_cons_of_mem _ List.mem_cons_self)) false
    (.plain _ checkBool_hollow) fields
  rw [hmode, hgroup, hflag]

theorem LoggingSettings.reads : Reads LoggingSettings.shape LoggingSettings.check := by
  have hnames : (LoggingSettings.declared.map Declared.name).Nodup := by decide
  refine Reads.record fun fields => ?_
  have hdirectory := Reads.optional hnames List.mem_cons_self none
    (.plain _ checkDirectory_hollow) fields
  have hlevel := Reads.optional hnames (List.mem_cons_of_mem _ List.mem_cons_self) LogLevel.info
    (.plain _ (checkToken_hollow LogLevel.table)) fields
  rw [hdirectory, hlevel]

theorem OpenerSettings.reads : Reads OpenerSettings.shape OpenerSettings.check := by
  have hnames : (OpenerSettings.declared.map Declared.name).Nodup := by decide
  refine Reads.record fun fields => ?_
  have hpolicies := Reads.optional hnames List.mem_cons_self ({} : OpenerSettings).policies
    PolicySettings.reads.items fields
  rw [hpolicies]

theorem Settings.reads : Reads Settings.shape Settings.check := by
  have hnames : (Settings.declared.map Declared.name).Nodup := by decide
  refine Reads.record fun fields => ?_
  have hlogging := Reads.optional hnames List.mem_cons_self {} LoggingSettings.reads fields
  have hopener := Reads.optional hnames (List.mem_cons_of_mem _ List.mem_cons_self) {}
    OpenerSettings.reads fields
  rw [hlogging, hopener]

/-! ## 4. Complaints on lines -/

namespace Settings

theorem not_mem_intercalate {c : Char} {separator : List Char} {ls : List (List Char)}
    (hseparator : c ∉ separator) (h : ∀ l ∈ ls, c ∉ l) : c ∉ separator.intercalate ls := by
  induction ls with
  | nil => exact List.not_mem_nil
  | cons l rest ih =>
    obtain ⟨hl, hrest⟩ := List.forall_mem_cons.1 h
    cases rest with
    | nil => rwa [List.intercalate_singleton]
    | cons l' rest =>
      rw [List.intercalate_cons_cons]
      simp only [List.mem_append, not_or]
      exact ⟨⟨hl, hseparator⟩, ih hrest⟩

/-- A complaint of one line is printed on one line. -/
theorem Issue.OnOneLine.not_mem_text {i : Issue} (h : i.OnOneLine) : '\n' ∉ i.text.toList := by
  obtain ⟨hplace, hcomplaint⟩ := h
  have hparts : '\n' ∉ (".".intercalate (i.place.map Part.text)).toList := by
    rw [String.toList_intercalate, List.map_map]
    exact not_mem_intercalate (by decide) (List.forall_mem_map.2 hplace)
  simp only [Issue.text, String.toList_append, List.mem_append, not_or]
  exact ⟨⟨hparts, by decide⟩, hcomplaint⟩

/-- **Complaints are printed one a line**: the lines of the text are the complaints. -/
theorem splitOn_issueLines {issues : List Issue} (hsome : issues ≠ [])
    (h : ∀ i ∈ issues, i.OnOneLine) :
    ("\n".intercalate (issues.map fun i => "  - " ++ i.text)).toList.splitOn '\n'
      = issues.map fun i => ("  - " ++ i.text).toList := by
  rw [String.toList_intercalate, List.map_map]
  refine List.splitOn_intercalate '\n' (fun l hl => ?_) fun hnone => hsome (List.map_eq_nil_iff.1 hnone)
  obtain ⟨i, hi, rfl⟩ := List.mem_map.1 hl
  have htext := (h i hi).not_mem_text
  simp only [Function.comp, String.toList_append, List.mem_append, not_or]
  exact ⟨by decide, htext⟩

/-! ## 5. The four kinds of settings -/

/-- What can be checked: a policy, the settings for logging, those for policies, and all settings. -/
inductive Model where
  | policy
  | logging
  | opener
  | settings
  deriving DecidableEq, Repr

namespace Model

/-- What a good value gives. -/
def Value : Model → Type
  | policy => PolicySettings
  | logging => LoggingSettings
  | opener => OpenerSettings
  | settings => Settings

def check : (m : Model) → Json → Checked m.Value
  | policy => PolicySettings.check
  | logging => LoggingSettings.check
  | opener => OpenerSettings.check
  | settings => Settings.check

/-- The members that are declared, in order. -/
def members : Model → List (Declared Shape)
  | policy => PolicySettings.declared
  | logging => LoggingSettings.declared
  | opener => OpenerSettings.declared
  | settings => Settings.declared

def typeName : Model → String
  | policy => "Policy"
  | logging => "LoggingConfig"
  | opener => "CoopConfig"
  | settings => "AppConfig"

def shape (m : Model) : Shape := .record m.typeName m.members

theorem reports (m : Model) (j : Json) : Reports m.shape j (m.check j) := by
  cases m with
  | policy => exact PolicySettings.reports j
  | logging => exact LoggingSettings.reports j
  | opener => exact OpenerSettings.reports j
  | settings => exact Settings.reports j

theorem reads (m : Model) : Reads m.shape m.check := by
  cases m with
  | policy => exact PolicySettings.reads
  | logging => exact LoggingSettings.reads
  | opener => exact OpenerSettings.reads
  | settings => exact Settings.reads

end Model

/-! ## 6. The outcome of a check -/

/-- A value that is refused is refused by its file too, with a line for each complaint. -/
theorem readDocument_of_refused {α : Type} {check : Json → Checked α} {d : Json} {issues : List Issue}
    (hcheck : check d = .error issues) {t : Tree} {path : Path} {kind encoding : String}
    {points : List Nat} (hpoints : readPoints t path kind encoding = .ok points)
    (hparse : Json.parse points = .ok d) :
    readDocument t path kind encoding check = .error (.invalid kind path issues) := by
  have hvalue : readDocument t path kind encoding check
      = (check d).mapError (.invalid kind path) := by
    rw [readDocument, hpoints]
    show (Json.parse points).mapError (DocumentFault.malformed kind path) >>= _ = _
    rw [hparse]
    rfl
  rw [hvalue, hcheck]
  rfl

/-- **What comes of a check.** A value is accepted exactly if it is an object in which each declared
    member that is there is good on its own and each that is needed is there. Else every place where
    something is wrong is reported and no other, each once, members as they are declared and items by
    their index, and a file with the value is refused with a line for each of them. Neither the order
    of members nor members that are not declared change the outcome, at any level. -/
theorem check_outcome (m : Model) (d : Json) :
    ((∃ a, m.check d = .ok a) ↔ ∃ fields, d = .members fields ∧ ∀ f ∈ m.members,
        (f.needed = true → d.field? f.name ≠ none) ∧
          ∀ j, d.field? f.name = some j → f.shape.Fits j) ∧
      (∀ issues, m.check d = .error issues → issues ≠ [] ∧
        (∀ place, place ∈ issues.map Issue.place ↔ ∃ c, m.shape.Wrong d place c) ∧
        (∀ i ∈ issues, m.shape.Wrong d i.place i.complaint) ∧
        (issues.map Issue.place).Nodup ∧ (issues.map Issue.place).Pairwise m.shape.Before ∧
        ∀ t path kind encoding points, readPoints t path kind encoding = .ok points →
          Json.parse points = .ok d →
          ∃ f text, readDocument t path kind encoding m.check = .error f ∧
            f.message = "Invalid " ++ kind ++ " file " ++ path.text ++ ":\n" ++ text ∧
            text.toList.splitOn '\n' = issues.map fun i =>
              ("  - " ++ (".".intercalate (i.place.map Part.text) ++ ": "
                ++ i.complaint.message)).toList) ∧
      ∀ d', m.shape.Rearranged d d' → m.check d' = m.check d := by
  have hreports : Reports m.shape d (m.check d) := m.reports d
  refine ⟨hreports.succeeds_iff.trans Shape.fits_record_iff, fun issues hcheck => ?_, fun d' hr => ?_⟩
  · obtain ⟨hplaces, hordered, hnodup⟩ := hreports.places
    have hissues : (m.check d).issues = issues := by rw [hcheck]; rfl
    have hwrong := hreports.mem_iff
    have hlines := hreports.onOneLine
    have hsome : issues ≠ [] := by
      intro hnone
      obtain ⟨a, ha⟩ := hreports.explained (hissues.trans hnone)
      cases ha.symm.trans hcheck
    rw [hissues] at hplaces hordered hnodup hwrong hlines
    refine ⟨hsome, hplaces, fun i hi => (hwrong i).1 hi, hnodup, hordered, ?_⟩
    intro t path kind encoding points hpoints hparse
    exact ⟨_, _, readDocument_of_refused hcheck hpoints hparse, rfl, splitOn_issueLines hsome hlines⟩
  · exact (m.reads.eq_of_rearranged hr).symm

/-- A policy that is all right and another one, for settings with them. -/
def misfitPolicies (second : Json) : Json :=
  .object [("policies", .list [.object [("mode", .str "unsafe-none")], second])]

def misfitLogging : Json := .object [("log_level", .str "LOUD")]

/-- Settings with a level that is none, and a second policy with two faults. -/
def misfit : Json :=
  .object [("logging", misfitLogging), ("coop", misfitPolicies (.object [("report_only", .int 2)]))]

/-- The same with its parts the other way round, and with members nobody asked for. -/
def misfitRearranged : Json :=
  .object [("note", .null),
    ("coop", misfitPolicies (.object [("report_only", .int 2), ("colour", .int 7)])),
    ("logging", misfitLogging)]

theorem plain_misfit : Json.Plain (.value misfit) := by
  have hmode : Json.Plain (.value (.object [("mode", .str "unsafe-none")])) :=
    Json.plain_object (by decide) (List.forall_mem_singleton.2 (.text "unsafe-none"))
  have hflag : Json.Plain (.value (.object [("report_only", .int 2)])) :=
    Json.plain_object (by decide) (List.forall_mem_singleton.2 (.int 2 (by decide)))
  have hlogging : Json.Plain (.value misfitLogging) :=
    Json.plain_object (by decide) (List.forall_mem_singleton.2 (.text "LOUD"))
  refine Json.plain_object (by decide) (List.forall_mem_cons.2 ⟨hlogging, ?_⟩)
  refine List.forall_mem_singleton.2 (Json.plain_object (by decide) (List.forall_mem_singleton.2 ?_))
  exact .list (.item hmode (.item hflag .noItems))

theorem rearranged_misfit : Settings.shape.Rearranged misfit misfitRearranged := by
  have hswapped : Settings.shape.Rearranged misfit (.object
      [("coop", misfitPolicies (.object [("report_only", .int 2)])), ("logging", misfitLogging)]) :=
    .reorder (by decide) (List.Perm.swap _ _ _)
  have hnote : Settings.shape.Rearranged
      (.object [("coop", misfitPolicies (.object [("report_only", .int 2)])),
        ("logging", misfitLogging)])
      (.object [("note", .null), ("coop", misfitPolicies (.object [("report_only", .int 2)])),
        ("logging", misfitLogging)]) :=
    .unknown [] _ (by decide) .null
  have hpolicies : OpenerSettings.shape.Rearranged
      (misfitPolicies (.object [("report_only", .int 2)]))
      (misfitPolicies (.object [("report_only", .int 2), ("colour", .int 7)])) := by
    refine .member [] [] fun m hm _ => ?_
    obtain rfl := List.mem_singleton.1 hm
    exact .item [_] [] (.unknown [_] [] (by decide) (.int 7))
  refine hswapped.trans (hnote.trans (.member [_] [_] fun m hm hname => ?_))
  rcases List.mem_cons.1 hm with rfl | hm
  · exact absurd hname (by decide)
  · obtain rfl := List.mem_singleton.1 hm
    exact hpolicies

/-- Each fault has a line of its own, and the other value has the same ones. -/
theorem misfit_reported :
    (∃ f text, readDocument ⟨[(["s"], .file (Text.utf8Bytes misfit.indented))], []⟩ (Path.parse "s")
        "config" encodingName Settings.check = .error f ∧
      f.message = "Invalid config file s:\n" ++ text ∧
      text.toList.splitOn '\n' =
        ["  - logging.log_level: Input should be 'DEBUG', 'INFO' or 'WARNING'".toList,
         "  - coop.policies.1.mode: Field required".toList,
         ("  - coop.policies.1.report_only: Input should be a valid boolean, "
           ++ "unable to interpret input").toList]) ∧
      Settings.check misfitRearranged = Settings.check misfit := by
  have hends : ∀ c ∈ Text.points misfit.indented, c ≠ 0x0D :=
    fun c hc => Json.ne_return_of_printable (Json.printable_indented plain_misfit c hc)
  have hparse := Json.parse_indented plain_misfit (Json.blanks_nil Json.indentation)
  rw [List.append_nil] at hparse
  have hpoints := (Text.unifyLineEnds_of_forall hends).symm
  obtain ⟨-, hrefused, hsame⟩ := check_outcome .settings misfit
  refine ⟨?_, hsame misfitRearranged rearranged_misfit⟩
  obtain ⟨-, -, -, -, -, hfile⟩ := hrefused _ rfl
  exact hfile _ _ "config" encodingName _
    ((readPoints_eq_ok_iff _).2 ⟨misfit.indented, rfl, hpoints⟩) hparse

end Settings

end OpenerPolicy
