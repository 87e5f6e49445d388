/-
  File:      OpenerPolicy/Proofs/Log/Calls.lean
  Subject:   THE SINKS OF THE SYSTEM LOGGER, WHATEVER IS ASKED OF IT.

  The logger is asked for, given levels and a log file, logged to and reset, in any order; some of
  these calls fail, others add sinks of their own, and the tree of files changes meanwhile. Whether a
  log file is attached can always be told from what was asked: it is the file of the first
  configuration that succeeded since the last reset.

  * `Call`, `State.call` -- what can be asked, and its effect and outcome; `State.after`,
    `State.afterAll` -- the state after a call and after a run;
  * `State.configured` -- the location of the first file configuration of a run that succeeded since
    the last reset, told from the calls and their outcomes alone;
  * `configures_cases` -- all that a configuration can do, successful or not;
  * `inStep_after` -- every call keeps the logger in step with what is configured, `inStep_afterAll`
    -- so does every run;
  * **`logger_in_step`** -- what the sinks are after every run, what a configuration that fails and a
    level that is refused leave behind, and what the first use after a reset gives.
-/
import OpenerPolicy.Proofs.Log.Sinks
import OpenerPolicy.Settings.Apply

namespace OpenerPolicy

open Files

namespace Log

/-! ## 1. Calls -/

/-- What is asked of the logger, and what happens beside it. -/
inductive Call where
  /-- Asks for the logger itself. -/
  | get
  | setLevel (level : Value)
  | addFile (p : Path)
  | configure (settings : Settings)
  | log (r : Record)
  /-- A sink of someone else is added, whether the logger is live or not. -/
  | addForeign (level : Value)
  | reset
  /-- Files and directories are changed by others. -/
  | elsewhere (tree : Tree)

/-- Why a call fails. -/
inductive CallFault where
  | level (f : LevelFault)
  | logging (f : LoggingFault)
  /-- The level of a record has no name. -/
  | unnamed (f : ValueFault)

/-- The logger, and the tree of its files. -/
structure State where
  logger : Logger
  tree : Tree

namespace Call

/-- Whether a call makes use of the logger, which is made then if need be. -/
def uses : Call → Bool
  | .addForeign _ => false
  | .reset => false
  | .elsewhere _ => false
  | _ => true

/-- Whether a call configures a log file, or would if its settings named one. -/
def configures : Call → Bool
  | .addFile _ => true
  | .configure _ => true
  | _ => false

/-- The path of the log file that a call configures. -/
def file? (homes : Homes) : Call → Option Path
  | .addFile p => some p
  | .configure settings => (settings.logPath homes).toOption.join
  | _ => none

theorem configures_of_file? {homes : Homes} {p : Path} {c : Call} (h : c.file? homes = some p) :
    c.configures = true := by
  cases c with
  | addFile p => rfl
  | configure settings => rfl
  | get => cases h
  | setLevel level => cases h
  | log r => cases h
  | addForeign level => cases h
  | reset => cases h
  | elsewhere tree => cases h

end Call

namespace State

/-- **The effect of a call**, and its outcome. -/
def call (homes : Homes) (s : State) : Call → State × Except CallFault Unit
  | .get => (⟨s.logger.ensure, s.tree⟩, .ok ())
  | .setLevel level =>
    let (g, outcome) := s.logger.setLevel level
    (⟨g, s.tree⟩, outcome.mapError .level)
  | .addFile p =>
    let (g, t, outcome) := s.logger.addFile s.tree p
    (⟨g, t⟩, outcome.mapError fun f => .logging (.file f))
  | .configure settings =>
    let (g, t, outcome) := settings.configureLogging homes s.logger s.tree
    (⟨g, t⟩, outcome.mapError .logging)
  | .log r =>
    let (g, t, outcome) := s.logger.log s.tree r
    (⟨g, t⟩, (outcome.map fun _ => ()).mapError .unnamed)
  | .addForeign level =>
    let (g, outcome) := s.logger.addForeign level
    (⟨g, s.tree⟩, outcome.mapError .level)
  | .reset => (⟨s.logger.reset, s.tree⟩, .ok ())
  | .elsewhere tree => (⟨s.logger, tree⟩, .ok ())

def after (homes : Homes) (s : State) (c : Call) : State := (s.call homes c).1

/-- The state after calls, one after the other. -/
def afterAll (homes : Homes) (s : State) (calls : List Call) : State := calls.foldl (after homes) s

@[simp] theorem afterAll_nil (homes : Homes) (s : State) : s.afterAll homes [] = s := rfl

@[simp] theorem afterAll_cons (homes : Homes) (s : State) (c : Call) (rest : List Call) :
    s.afterAll homes (c :: rest) = (s.after homes c).afterAll homes rest := rfl

theorem afterAll_append (homes : Homes) (s : State) (first second : List Call) :
    s.afterAll homes (first ++ second) = (s.afterAll homes first).afterAll homes second :=
  List.foldl_append

/-! ## 2. What has been configured -/

/-- What is configured after a call, told from its outcome: a reset takes it back, and a configuration
    that succeeds counts unless an earlier one does. -/
def noted (homes : Homes) (s : State) (earlier : Option Location) (c : Call) : Option Location :=
  match c, c.file? homes, (s.call homes c).2 with
  | .reset, _, _ => none
  | _, some p, .ok () => some (earlier.getD (s.tree.target p))
  | _, _, _ => earlier

/-- **The log file that is configured after a run**: that of the first configuration to succeed since
    the last reset. -/
def configured (homes : Homes) (s : State) (earlier : Option Location) : List Call → Option Location
  | [] => earlier
  | c :: rest => (s.after homes c).configured homes (s.noted homes earlier c) rest

theorem configured_append (homes : Homes) (s : State) (earlier : Option Location)
    (first second : List Call) :
    s.configured homes earlier (first ++ second)
      = (s.afterAll homes first).configured homes (s.configured homes earlier first) second := by
  induction first generalizing s earlier with
  | nil => rfl
  | cons c rest ih => exact ih _ _

end State

/-! ## 3. Configurations -/

section Configuring

variable {settings : Settings} {homes : Homes}

/-- Settings whose log file cannot be told set the level alone. -/
theorem configureLogging_of_error {f : HomeFault} (h : settings.logPath homes = .error f) (g : Logger)
    (t : Tree) :
    settings.configureLogging homes g t
      = ((g.setLevel (.str settings.logging.level.name)).1, t, .error (.home f)) := by
  rw [Settings.configureLogging, h]

/-- So do settings without a log file. -/
theorem configureLogging_of_none (h : settings.logPath homes = .ok none) (g : Logger) (t : Tree) :
    settings.configureLogging homes g t
      = ((g.setLevel (.str settings.logging.level.name)).1, t, .ok ()) := by
  rw [Settings.configureLogging, h]

/-- Other settings set the level and add their log file. -/
theorem configureLogging_of_some {p : Path} (h : settings.logPath homes = .ok (some p)) (g : Logger)
    (t : Tree) :
    let added := (g.setLevel (.str settings.logging.level.name)).1.addFile t p
    settings.configureLogging homes g t = (added.1, added.2.1, added.2.2.mapError .file) := by
  rw [Settings.configureLogging, h]

end Configuring

namespace State

variable {homes : Homes} {s : State} {file : Option Location} {c : Call} {p : Path}

/-- **What a configuration does**: without a log file it sets a level at most; else a log file is added,
    to the logger as it was or after its level was set. -/
theorem call_cases (hc : c.configures = true) (homes : Homes) (s : State) :
    (c.file? homes = none ∧
      ∃ n outcome, s.call homes c = (⟨s.logger.ensure.atLevel n, s.tree⟩, outcome)) ∨
    (∃ p g wrap, c.file? homes = some p ∧ (g = s.logger ∨ ∃ n, g = s.logger.ensure.atLevel n) ∧
      s.call homes c = (⟨(g.addFile s.tree p).1, (g.addFile s.tree p).2.1⟩,
        (g.addFile s.tree p).2.2.mapError wrap)) := by
  cases c with
  | addFile p => exact Or.inr ⟨p, s.logger, _, rfl, Or.inl rfl, rfl⟩
  | configure settings =>
    obtain ⟨n, hlevel⟩ := s.logger.setLevel_eq (.str settings.logging.level.name)
    rw [Call.file?, call]
    rcases hpath : settings.logPath homes with f | _ | p
    · rw [configureLogging_of_error hpath, hlevel]
      exact Or.inl ⟨rfl, n, _, rfl⟩
    · rw [configureLogging_of_none hpath, hlevel]
      exact Or.inl ⟨rfl, n, _, rfl⟩
    · rw [configureLogging_of_some hpath, hlevel]
      refine Or.inr ⟨p, s.logger.ensure.atLevel n, CallFault.logging ∘ LoggingFault.file, rfl,
        Or.inr ⟨n, rfl⟩, ?_⟩
      rcases (s.logger.ensure.atLevel n).addFile s.tree p with ⟨g', t', f | _⟩ <;> rfl
  | get => cases hc
  | setLevel level => cases hc
  | log r => cases hc
  | addForeign level => cases hc
  | reset => cases hc
  | elsewhere tree => cases hc

/-- The logger that a file is added to has the sinks that asking for it gives. -/
theorem sinks_ensure_of_start {g g' : Logger} (h : g' = g ∨ ∃ n, g' = g.ensure.atLevel n) :
    g'.ensure.sinks = g.ensure.sinks := by
  rcases h with rfl | ⟨n, rfl⟩
  · rfl
  · rw [Logger.ensure_atLevel, Logger.sinks_atLevel]

theorem inStep_of_start {g g' : Logger} (hg : g.InStep file)
    (h : g' = g ∨ ∃ n, g' = g.ensure.atLevel n) : g'.InStep file := by
  rcases h with rfl | ⟨n, rfl⟩
  · exact hg
  · exact hg.ensure.atLevel n

/-- **What a configuration does to a logger in step**, in all cases: without a log file it sets a level
    at most. With one, it is ignored if a file is configured; else the file cannot be opened, and the
    sinks are those that asking for the logger gives, or it is there and attached. -/
theorem configures_cases (h : s.logger.InStep file) (hc : c.configures = true) (homes : Homes) :
    (c.file? homes = none ∧
      ∃ n outcome, s.call homes c = (⟨s.logger.ensure.atLevel n, s.tree⟩, outcome)) ∨
    ∃ p g, c.file? homes = some p ∧ g.InStep file ∧ g.ensure.sinks = s.logger.ensure.sinks ∧
      ((∃ l, file = some l ∧ s.call homes c = (⟨g, s.tree⟩, .ok ())) ∨
        (∃ t f f', file = none ∧ s.tree.Keeps t ∧ (s.tree.opened p).2 = .error f ∧
          s.call homes c = (⟨g.ensure, t⟩, .error f')) ∨
        ∃ t, file = none ∧ s.tree.Keeps t ∧ t.IsFile (s.tree.target p) ∧
          s.call homes c = (⟨g.ensure.withFile (s.tree.target p), t⟩, .ok ())) := by
  rcases call_cases hc homes s with hnone | ⟨p, g, wrap, hfile, hg, hcall⟩
  · exact Or.inl hnone
  · have hstart := inStep_of_start h hg
    refine Or.inr ⟨p, g, hfile, hstart, sinks_ensure_of_start hg, ?_⟩
    rcases hstart.addFile_cases s.tree p with
      ⟨l, hl, hadd⟩ | ⟨t, f, hnone, hkeeps, hopen, hadd⟩ | ⟨t, hnone, hkeeps, hthere, hadd⟩
    · rw [hadd] at hcall
      exact Or.inl ⟨l, hl, hcall⟩
    · rw [hadd] at hcall
      exact Or.inr (Or.inl ⟨t, f, wrap f, hnone, hkeeps, hopen, hcall⟩)
    · rw [hadd] at hcall
      exact Or.inr (Or.inr ⟨t, hnone, hkeeps, hthere, hcall⟩)

/-- A configuration without a log file configures none. -/
theorem noted_of_no_file (hc : c.configures = true) (hfile : c.file? homes = none) :
    s.noted homes file c = file := by
  unfold noted
  split
  · cases hc
  · next hsome _ =>
    rw [hfile] at hsome
    cases hsome
  · rfl

/-- A call that fails configures no log file. -/
theorem noted_of_failed {f : CallFault} (hf : (s.call homes c).2 = .error f) :
    s.noted homes file c = file := by
  unfold noted
  split
  · cases hf
  · next hok =>
    rw [hf] at hok
    cases hok
  · rfl

/-- A configuration that succeeds counts unless an earlier one does. -/
theorem noted_of_ok (hfile : c.file? homes = some p) (hok : (s.call homes c).2 = .ok ()) :
    s.noted homes file c = some (file.getD (s.tree.target p)) := by
  unfold noted
  split
  · cases hfile
  · next hsome _ =>
    rw [hfile] at hsome
    rw [Option.some.inj hsome]
  · next hno =>
    exact absurd hok (hno p hfile)

/-- **A configuration keeps the logger in step** with what has been configured. -/
theorem inStep_of_configures (h : s.logger.InStep file) (hc : c.configures = true) :
    (s.after homes c).logger.InStep (s.noted homes file c) := by
  rcases configures_cases h hc homes with ⟨hfile, n, outcome, hcall⟩ |
    ⟨p, g, hfile, hg, -, ⟨l, rfl, hcall⟩ | ⟨t, f, f', rfl, -, -, hcall⟩ | ⟨t, rfl, -, -, hcall⟩⟩
  · rw [noted_of_no_file hc hfile, after, hcall]
    exact h.ensure.atLevel n
  · rw [noted_of_ok hfile (congrArg Prod.snd hcall), after, hcall]
    exact hg
  · rw [noted_of_failed (congrArg Prod.snd hcall), after, hcall]
    exact hg.ensure
  · rw [noted_of_ok hfile (congrArg Prod.snd hcall), after, hcall]
    exact hg.ensure.withFile (Logger.ensure_live g) (s.tree.target p)

/-- **Every call keeps the logger in step.** -/
theorem inStep_after (h : s.logger.InStep file) (homes : Homes) (c : Call) :
    (s.after homes c).logger.InStep (s.noted homes file c) := by
  cases c with
  | get => exact h.ensure
  | setLevel level => exact h.setLevel level
  | addFile p => exact inStep_of_configures h rfl
  | configure settings => exact inStep_of_configures h rfl
  | log r =>
    show (s.logger.log s.tree r).1.InStep file
    rw [Logger.fst_log]
    exact h.ensure
  | addForeign level => exact h.addForeign level
  | reset => exact h.reset
  | elsewhere tree => exact h

/-- **A configuration that fails** attaches nothing. -/
theorem sinks_of_failed (h : s.logger.InStep file) (hc : c.configures = true) {f : CallFault}
    (hf : (s.call homes c).2 = .error f) :
    (s.after homes c).logger.sinks = s.logger.ensure.sinks := by
  rcases configures_cases h hc homes with ⟨-, n, outcome, hcall⟩ |
    ⟨p, g, -, -, hsinks, ⟨l, -, hcall⟩ | ⟨t, f, f', -, -, -, hcall⟩ | ⟨t, -, -, -, hcall⟩⟩
  · rw [after, hcall]
    rfl
  · rw [hcall] at hf
    cases hf
  · rw [after, hcall]
    exact hsinks
  · rw [hcall] at hf
    cases hf

/-- **A configuration of a path that can be opened** succeeds and attaches its file, if no file was
    configured before. -/
theorem call_of_opened (h : s.logger.InStep none) {l : Location} (hfile : c.file? homes = some p)
    (hopen : (s.tree.opened p).2 = .ok l) :
    (s.call homes c).2 = .ok () ∧
      (s.after homes c).logger.sinks = s.logger.ensure.sinks ++ [.file (s.tree.target p)] := by
  rcases configures_cases h (Call.configures_of_file? hfile) homes with ⟨hnone, -⟩ |
    ⟨p', g, hfile', -, hsinks, ⟨l', hl', -⟩ | ⟨t, f, f', -, -, hf, -⟩ | ⟨t, -, -, -, hcall⟩⟩
  · rw [hfile] at hnone
    cases hnone
  · cases hl'
  · obtain rfl : p = p' := Option.some.inj (hfile.symm.trans hfile')
    rw [hopen] at hf
    cases hf
  · obtain rfl : p = p' := Option.some.inj (hfile.symm.trans hfile')
    rw [after, hcall, ← hsinks]
    exact ⟨rfl, rfl⟩

/-- **A level that is refused** does what asking for the logger does, so a live one stays as it is. -/
theorem after_of_refused {level : Value} {f : CallFault}
    (hf : (s.call homes (.setLevel level)).2 = .error f) :
    s.after homes (.setLevel level) = s.after homes .get := by
  have hcall : s.call homes (.setLevel level)
      = (⟨(s.logger.setLevel level).1, s.tree⟩, (s.logger.setLevel level).2.mapError .level) := rfl
  rw [hcall] at hf
  rw [after, hcall]
  cases houtcome : (s.logger.setLevel level).2 with
  | error f' =>
    rw [Logger.setLevel_of_refused houtcome]
    rfl
  | ok _ =>
    rw [houtcome] at hf
    cases hf

theorem after_get_of_live (h : s.logger.live = true) : s.after homes .get = s := by
  show State.mk s.logger.ensure s.tree = s
  rw [Logger.ensure_of_live h]

/-- A call that makes no use of an idle logger leaves it idle. -/
theorem idle_after (h : s.logger.Idle) (hc : c.uses = false) (homes : Homes) :
    (s.after homes c).logger.Idle := by
  cases c with
  | addForeign level => exact h.addForeign level
  | reset => exact s.logger.idle_reset
  | elsewhere tree => exact h
  | get => cases hc
  | setLevel level => cases hc
  | addFile p => cases hc
  | configure settings => cases hc
  | log r => cases hc

/-! ## 4. Runs -/

/-- **Every run keeps the logger in step.** -/
theorem inStep_afterAll (h : s.logger.InStep file) (homes : Homes) (calls : List Call) :
    (s.afterAll homes calls).logger.InStep (s.configured homes file calls) := by
  induction calls generalizing s file with
  | nil => exact h
  | cons c rest ih => exact ih (inStep_after h homes c)

theorem idle_afterAll {calls : List Call} (h : s.logger.Idle) (hcalls : ∀ c ∈ calls, c.uses = false)
    (homes : Homes) : (s.afterAll homes calls).logger.Idle := by
  induction calls generalizing s with
  | nil => exact h
  | cons c rest ih =>
    obtain ⟨hc, hrest⟩ := List.forall_mem_cons.1 hcalls
    exact ih (idle_after h hc homes) hrest

/-- **The first use after a reset** gives a logger as it is made, whatever was done between. -/
theorem get_after_reset (homes : Homes) (s : State) {meanwhile : List Call}
    (h : ∀ c ∈ meanwhile, c.uses = false) :
    (s.afterAll homes (.reset :: (meanwhile ++ [.get]))).logger = Logger.fresh := by
  have hreset : (s.after homes .reset).logger.Idle := s.logger.idle_reset
  rw [afterAll_cons, afterAll_append]
  exact (idle_afterAll hreset h homes).ensure

/-- **What the sinks of the logger are**, whatever was asked of it and whatever happened to its files
    meanwhile:

    * a live logger has one console, and hands no record on;
    * it has a log file exactly if a configuration has succeeded since the last reset, namely the
      file of the first that did, and never more than one;
    * a configuration that fails attaches nothing and does not count; as long as none has counted, the
      next one of a path that can be opened succeeds and attaches its file;
    * a level that is refused leaves a live logger as it was; one that is not live is made by it as by
      any first use;
    * the first use after a reset gives a logger with the level for information, which hands no record
      on and has a console for its only sink, whatever sinks were added meanwhile. -/
theorem logger_in_step (homes : Homes) (tree : Tree) (calls : List Call) :
    let start : State := ⟨.unused, tree⟩
    let s := start.afterAll homes calls
    let file := start.configured homes none calls
    (s.logger.live = true → s.logger.sinks.count .console = 1 ∧ s.logger.propagates = false) ∧
    s.logger.sinks.filterMap Sink.file? = file.toList ∧
    (∀ c f, c.configures = true → (s.call homes c).2 = .error f →
      (s.after homes c).logger.sinks = s.logger.ensure.sinks ∧
      start.configured homes none (calls ++ [c]) = file) ∧
    (file = none → ∀ (t : Tree) c p l, c.file? homes = some p → (t.opened p).2 = .ok l →
      (call homes ⟨s.logger, t⟩ c).2 = .ok () ∧
      (after homes ⟨s.logger, t⟩ c).logger.sinks = s.logger.ensure.sinks ++ [.file (t.target p)]) ∧
    (∀ level f, (s.call homes (.setLevel level)).2 = .error f →
      s.after homes (.setLevel level) = s.after homes .get ∧
      (s.logger.live = true → s.after homes (.setLevel level) = s)) ∧
    (∀ meanwhile : List Call, (∀ c ∈ meanwhile, c.uses = false) →
      let g := (s.afterAll homes (.reset :: (meanwhile ++ [.get]))).logger
      g.level = info ∧ g.propagates = false ∧ g.sinks = [.console]) := by
  intro start s file
  have h : s.logger.InStep file := inStep_afterAll Logger.InStep.unused homes calls
  refine ⟨fun hlive => ⟨?_, h.quiet hlive⟩, h.files, fun c f hc hf => ⟨sinks_of_failed h hc hf, ?_⟩,
    fun hnone t c p l hc hopen => ?_,
    fun level f hf => ⟨after_of_refused hf, fun hlive => ?_⟩, fun meanwhile hmeanwhile => ?_⟩
  · rw [h.console, if_pos hlive]
  · rw [configured_append]
    exact noted_of_failed hf
  · have hnone' : s.logger.InStep none := hnone ▸ h
    exact call_of_opened (s := ⟨s.logger, t⟩) hnone' hc hopen
  · rw [after_of_refused hf, after_get_of_live hlive]
  · intro g
    have hg : g = Logger.fresh := get_after_reset homes s hmeanwhile
    rw [hg]
    exact ⟨rfl, rfl, rfl⟩

/-- A working directory with a file in it, which no log file can be below. -/
def siteTree : Tree := (Tree.empty ["site"]).put ["site", "notes"] (.file [])

/-- The first path cannot be opened: nothing is attached, and the next path is. A level that is refused
    changes nothing then, and a reset takes everything back, a sink added meanwhile too. -/
theorem second_path_attached :
    let homes : Homes := fun _ => some ⟨1, ["home"]⟩
    let s := afterAll homes ⟨.unused, siteTree⟩ [.addFile ⟨0, ["notes", "system.jsonl"]⟩]
    (s.logger.sinks.count .console = 1 ∧ s.logger.sinks.filterMap Sink.file? = []) ∧
    (s.after homes (.addFile ⟨0, ["notes", "other"]⟩)).logger.sinks = s.logger.sinks ∧
    (s.after homes (.addFile ⟨0, ["logs", "..", "system.jsonl"]⟩)).logger.sinks
      = s.logger.sinks ++ [.file ["site", "system.jsonl"]] ∧
    s.after homes (.setLevel (.str "LOUD")) = s ∧
    (s.afterAll homes [.reset, .addForeign (.int 10), .get]).logger.sinks = [.console] := by
  intro homes s
  obtain ⟨hconsole, hfiles, hfailed, hopened, hrefused, hreset⟩ :=
    logger_in_step homes siteTree [.addFile ⟨0, ["notes", "system.jsonl"]⟩]
  refine ⟨⟨(hconsole rfl).1, hfiles.trans (by decide +kernel)⟩, ?_, ?_, ?_, ?_⟩
  · exact (hfailed (.addFile ⟨0, ["notes", "other"]⟩) _ rfl rfl).1
  · have hnone : configured homes ⟨.unused, siteTree⟩ none
        [.addFile ⟨0, ["notes", "system.jsonl"]⟩] = none := by decide +kernel
    exact (hopened hnone s.tree (.addFile ⟨0, ["logs", "..", "system.jsonl"]⟩) _ _ rfl rfl).2
  · exact (hrefused (.str "LOUD") _ rfl).2 rfl
  · exact (hreset [.addForeign (.int 10)] (by simp [Call.uses])).2.2

end State

end Log

end OpenerPolicy
