/-
  File:      OpenerPolicy/Proofs/Log/Console.lean
  Subject:   WHICH RECORDS ARE SHOWN ON THE CONSOLE.

  A record has to pass two thresholds to be shown: the level of the logger, and that of the console,
  which is the one for debugging. A level that is set stays until another one is set or the logger is
  reset, whatever files and sinks are added meanwhile, and a live logger has exactly one console. So a
  record is shown once or not at all. The level of the logger alone decides for records that are at
  least as severe as those for debugging; others are never shown, even where it is set below them.

  * `shown_writeAll`, `InStep.shown_log` -- what sinks show of a record, and what the logger shows;
  * `Call.level?` -- the level that a call sets;
  * `StandsAt` -- a live logger with a given level; `standsAt_of_level?` -- so it is once a level is
    set, `standsAt_after` -- and stays until another one is, `standsAt_afterAll` -- over runs;
  * **`shown_above_both_levels`** -- the records that are shown, after every run;
  * `record_below_console_hidden` -- one that is not, though its level is above the one set.
-/
import OpenerPolicy.Proofs.Log.Calls

namespace OpenerPolicy

open Files

namespace Log

/-! ## 1. One record -/

namespace Logger

variable {g : Logger} {file : Option Location} {r : Record} {text : Json.Text}

/-- A record with a console form has a level with a name. -/
theorem levelName_of_console (h : r.console = .ok text) : ∃ level, levelName r.level = .ok level := by
  rw [Record.console] at h
  obtain ⟨level, hlevel, -⟩ := bind_eq_ok_iff.1 h
  exact ⟨level, mapError_eq_ok_iff.1 hlevel⟩

/-- Only a console shows a record. -/
theorem shown_write (s : Sink) (t : Tree) (h : r.console = .ok text) :
    (s.write t r).2 = if s = .console then text.legible ++ "\n" else "" := by
  cases s with
  | console =>
    rw [Sink.write, h]
    rfl
  | file l =>
    rw [Sink.write, if_neg (by simp)]
    split <;> rfl
  | silent level =>
    rw [Sink.write, if_neg (by simp)]

/-- A console that does not admit the level shows nothing either. -/
theorem shown_offered (s : Sink) (t : Tree) (h : r.console = .ok text) :
    (if s.admits r.level then s.write t r else (t, "")).2
      = if s = .console ∧ debug ≤ r.level then text.legible ++ "\n" else "" := by
  cases hadmits : s.admits r.level with
  | true =>
    rw [if_pos rfl, shown_write s t h]
    by_cases hs : s = .console
    · subst hs
      rw [if_pos rfl, if_pos ⟨rfl, of_decide_eq_true hadmits⟩]
    · rw [if_neg hs, if_neg fun hboth => hs hboth.1]
  | false =>
    rw [if_neg Bool.false_ne_true, if_neg]
    rintro ⟨rfl, hlevel⟩
    exact of_decide_eq_false hadmits hlevel

/-- **A record written to sinks** is shown once for each console among them, if consoles admit its
    level. -/
theorem shown_writeAll (t : Tree) (sinks : List Sink) (h : r.console = .ok text) :
    (writeAll t r sinks).2 = String.join
      (if debug ≤ r.level then List.replicate (sinks.count .console) (text.legible ++ "\n") else []) := by
  induction sinks generalizing t with
  | nil =>
    rw [List.count_nil, List.replicate_zero, ite_self]
    rfl
  | cons s rest ih =>
    have hfirst := shown_offered s t h
    rw [writeAll]
    dsimp only
    rw [ih, hfirst, List.count_cons]
    -- the line of the first sink and those of the rest
    by_cases hlevel : debug ≤ r.level
    · rw [if_pos hlevel, if_pos hlevel]
      by_cases hs : s = .console
      · rw [if_pos ⟨hs, hlevel⟩, if_pos (beq_iff_eq.2 hs), List.replicate_succ, String.join_cons]
      · rw [if_neg fun hboth => hs hboth.1, if_neg fun heq => hs (beq_iff_eq.1 heq),
          String.empty_append]
        rfl
    · rw [if_neg fun hboth => hlevel hboth.2, if_neg hlevel, if_neg hlevel]
      rfl

/-- **A record that is logged** is shown once if it passes both thresholds, and not at all otherwise. -/
theorem InStep.shown_log (h : g.InStep file) (t : Tree) (hconsole : r.console = .ok text) :
    (g.log t r).2.2 = .ok
      (if g.ensure.admits r.level = true ∧ debug ≤ r.level then text.legible ++ "\n" else "") := by
  have hone : g.ensure.sinks.count .console = 1 := by
    rw [h.ensure.console, if_pos (ensure_live g)]
  obtain ⟨level, hname⟩ := levelName_of_console hconsole
  rw [log, hname]
  dsimp only
  by_cases hadmits : g.ensure.admits r.level = true
  · rw [if_pos hadmits]
    dsimp only
    rw [shown_writeAll t _ hconsole, hone]
    by_cases hlevel : debug ≤ r.level
    · rw [if_pos hlevel, if_pos ⟨hadmits, hlevel⟩, List.replicate_one, String.join_cons,
        String.join_nil, String.append_empty]
    · rw [if_neg hlevel, if_neg fun hboth => hlevel hboth.2]
      rfl
  · rw [if_neg hadmits, if_neg fun hboth => hadmits hboth.1]

/-! ## 2. The level that is set -/

/-- **A live logger with a given level.** -/
structure StandsAt (g : Logger) (n : Int) : Prop where
  live : g.live = true
  level : g.level = n

variable {n : Int}

theorem StandsAt.ensure_eq (h : g.StandsAt n) : g.ensure = g := ensure_of_live h.live

theorem standsAt_setLevel {level : Value} {given : Level} (h : Level.check level = .ok given) :
    (g.setLevel level).1.StandsAt given.value := by
  rw [setLevel, h]
  exact ⟨ensure_live g, rfl⟩

/-- A log file that is added leaves the level alone. -/
theorem StandsAt.addFile (h : g.StandsAt n) (hstep : g.InStep file) (t : Tree) (p : Path) :
    (g.addFile t p).1.StandsAt n := by
  rcases hstep.addFile_cases t p with ⟨l, -, hadd⟩ | ⟨t', f, -, -, -, hadd⟩ | ⟨t', -, -, -, hadd⟩
  · rw [hadd]
    exact h
  · rw [hadd, h.ensure_eq]
    exact h
  · rw [hadd, h.ensure_eq]
    exact ⟨h.live, h.level⟩

/-- At a positive level, the logger admits what is at least as severe. -/
theorem StandsAt.admits_iff (h : g.StandsAt n) (hpos : 0 < n) (level : Int) :
    g.admits level = true ↔ n ≤ level := by
  have hthreshold : g.threshold = n := by
    rw [threshold, h.level, if_neg (Int.ne_of_gt hpos)]
  rw [admits, hthreshold, Bool.and_eq_true, decide_eq_true_iff, decide_eq_true_iff]
  exact and_iff_right_of_imp (Int.lt_of_lt_of_le hpos)

end Logger

/-- **The level that a call sets**: the one it gives, if that stands for a level, or the one of its
    settings. -/
def Call.level? : Call → Option Int
  | .setLevel level => (Level.check level).toOption.map Level.value
  | .configure settings => (Level.check (.str settings.logging.level.name)).toOption.map Level.value
  | _ => none

/-- The levels of settings are among those that can be set. -/
theorem exists_check_name (level : LogLevel) : ∃ given, Level.check (.str level.name) = .ok given := by
  cases level <;> exact ⟨_, rfl⟩

namespace State

variable {homes : Homes} {s : State} {file : Option Location} {c : Call} {n : Int}

/-- A configuration sets the level of its settings, and adds a log file at most. -/
theorem standsAt_configure (h : s.logger.InStep file) (homes : Homes) (settings : Settings) {given : Level}
    (hcheck : Level.check (.str settings.logging.level.name) = .ok given) :
    (s.after homes (.configure settings)).logger.StandsAt given.value := by
  have hset : (s.logger.setLevel (.str settings.logging.level.name)).1.StandsAt given.value :=
    Logger.standsAt_setLevel hcheck
  show (settings.configureLogging homes s.logger s.tree).1.StandsAt given.value
  rcases hpath : settings.logPath homes with f | _ | p
  · rw [configureLogging_of_error hpath]
    exact hset
  · rw [configureLogging_of_none hpath]
    exact hset
  · rw [configureLogging_of_some hpath]
    exact hset.addFile (h.setLevel _) s.tree p

/-- **A call that sets a level** leaves a live logger with it. -/
theorem standsAt_of_level? (h : s.logger.InStep file) (homes : Homes) (hc : c.level? = some n) :
    (s.after homes c).logger.StandsAt n := by
  unfold Call.level? at hc
  split at hc
  · next level =>
    obtain ⟨given, hgiven, rfl⟩ := Option.map_eq_some_iff.1 hc
    cases hcheck : Level.check level with
    | error f =>
      rw [hcheck] at hgiven
      cases hgiven
    | ok found =>
      rw [hcheck] at hgiven
      obtain rfl := Option.some.inj hgiven
      exact Logger.standsAt_setLevel hcheck
  · next settings =>
    obtain ⟨given, hcheck⟩ := exists_check_name settings.logging.level
    rw [hcheck] at hc
    obtain rfl := Option.some.inj hc
    exact standsAt_configure h homes settings hcheck
  · cases hc

/-- **The level stays** until another one is set or the logger is reset. -/
theorem standsAt_after (hat : s.logger.StandsAt n) (h : s.logger.InStep file) (homes : Homes)
    (hc : c.level? = none) (hreset : c ≠ .reset) : (s.after homes c).logger.StandsAt n := by
  cases c with
  | get =>
    show s.logger.ensure.StandsAt n
    rw [hat.ensure_eq]
    exact hat
  | setLevel level =>
    cases hcheck : Level.check level with
    | ok given =>
      rw [Call.level?, hcheck] at hc
      cases hc
    | error f =>
      show (s.logger.setLevel level).1.StandsAt n
      rw [Logger.setLevel, hcheck, hat.ensure_eq]
      exact hat
  | addFile p => exact hat.addFile h s.tree p
  | configure settings =>
    obtain ⟨given, hcheck⟩ := exists_check_name settings.logging.level
    rw [Call.level?, hcheck] at hc
    cases hc
  | log r =>
    show (s.logger.log s.tree r).1.StandsAt n
    rw [Logger.fst_log, hat.ensure_eq]
    exact hat
  | addForeign level =>
    show (s.logger.addForeign level).1.StandsAt n
    unfold Logger.addForeign
    split
    · exact ⟨hat.live, hat.level⟩
    · exact hat
  | reset => exact absurd rfl hreset
  | elsewhere tree => exact hat

theorem standsAt_afterAll {run : List Call} (hat : s.logger.StandsAt n) (h : s.logger.InStep file)
    (homes : Homes) (hrun : ∀ c ∈ run, c.level? = none ∧ c ≠ .reset) :
    (s.afterAll homes run).logger.StandsAt n := by
  induction run generalizing s file with
  | nil => exact hat
  | cons c rest ih =>
    obtain ⟨hc, hrest⟩ := List.forall_mem_cons.1 hrun
    exact ih (standsAt_after hat h homes hc.1 hc.2) (inStep_after h homes c) hrest

/-! ## 3. The records that are shown -/

/-- **Which records are shown**, once a positive level was set and until another one is set or the logger
    is reset, whatever happened before and whatever else happens meanwhile: a record with a console form
    is shown exactly once if it is at least as severe as the level set and as those for debugging, and
    not at all otherwise. So the level that was set decides alone exactly for the records that do not
    lie between the two. -/
theorem shown_above_both_levels (homes : Homes) (tree : Tree) (before run : List Call) (c : Call) (n : Int)
    (r : Record) (text : Json.Text) (hset : c.level? = some n) (hpos : 0 < n)
    (hrun : ∀ d ∈ run, d.level? = none ∧ d ≠ .reset) (hconsole : r.console = .ok text) :
    let s := afterAll homes ⟨.unused, tree⟩ (before ++ c :: run)
    let shown := (s.logger.log s.tree r).2.2
    shown = .ok (if n ≤ r.level ∧ debug ≤ r.level then text.legible ++ "\n" else "") ∧
      (shown = .ok (if n ≤ r.level then text.legible ++ "\n" else "")
        ↔ ¬ (n ≤ r.level ∧ r.level < debug)) := by
  intro s shown
  have hbefore := inStep_afterAll (s := ⟨.unused, tree⟩) Logger.InStep.unused homes before
  have hstep := inStep_afterAll (s := ⟨.unused, tree⟩) Logger.InStep.unused homes (before ++ c :: run)
  have hat : s.logger.StandsAt n := by
    show (afterAll homes ⟨.unused, tree⟩ (before ++ c :: run)).logger.StandsAt n
    rw [afterAll_append, afterAll_cons]
    exact standsAt_afterAll (standsAt_of_level? hbefore homes hset) (inStep_after hbefore homes c) homes hrun
  have hshown : shown = .ok (if n ≤ r.level ∧ debug ≤ r.level then text.legible ++ "\n" else "") := by
    show (s.logger.log s.tree r).2.2 = _
    rw [hstep.shown_log s.tree hconsole, hat.ensure_eq]
    simp only [hat.admits_iff hpos]
  refine ⟨hshown, ?_⟩
  have hline : text.legible ++ "\n" ≠ "" := fun hempty => by
    have hlength := congrArg String.length hempty
    simp at hlength
  rw [hshown, Except.ok.injEq]
  by_cases hn : n ≤ r.level
  · by_cases hlevel : debug ≤ r.level
    · rw [if_pos ⟨hn, hlevel⟩, if_pos hn]
      exact iff_of_true rfl fun hboth => Int.not_lt.2 hlevel hboth.2
    · rw [if_neg fun hboth => hlevel hboth.2, if_pos hn]
      exact iff_of_false (Ne.symm hline) fun hno => hno ⟨hn, Int.not_le.1 hlevel⟩
  · rw [if_neg fun hboth => hn hboth.1, if_neg hn]
    exact iff_of_true rfl fun hboth => hn hboth.1

/-- After a reset and with a log file attached, a record of the level set is shown once. -/
theorem error_shown_once :
    let run : List Call := [.addFile ⟨0, ["system.jsonl"]⟩, .setLevel (.str "LOUD"), .addForeign (.int 1)]
    let s := afterAll (fun _ => some ⟨1, ["home"]⟩) ⟨.unused, siteTree⟩
      ([.setLevel (.int 5), .addFile ⟨0, ["other"]⟩, .reset] ++ .setLevel (.str "ERROR") :: run)
    (s.logger.log s.tree ⟨⟨40, .str "disk full", []⟩, .whole 0⟩).2.2 = .ok "ERROR: disk full\n" := by
  intro run s
  have hrefused : Level.check (.str "LOUD") = .error (.unknownName (.whole "LOUD")) := rfl
  have hrun : ∀ d ∈ run, d.level? = none ∧ d ≠ .reset := by
    simp [run, Call.level?, hrefused, Except.toOption]
  exact (shown_above_both_levels (fun _ => some ⟨1, ["home"]⟩) siteTree _ run (.setLevel (.str "ERROR")) 40
    ⟨⟨40, .str "disk full", []⟩, .whole 0⟩ (.whole "ERROR: disk full") rfl (by decide) hrun rfl).1

/-- **A record that is not shown** although its level is above the one that was set. -/
theorem record_below_console_hidden :
    let s := afterAll (fun _ => some ⟨1, ["home"]⟩) ⟨.unused, siteTree⟩ [.setLevel (.int 5)]
    let r : Record := ⟨⟨7, .str "quiet", []⟩, .whole 0⟩
    (Call.setLevel (.int 5)).level? = some 5 ∧ 5 ≤ r.level ∧ r.console = .ok (.whole "Level 7: quiet") ∧
      (s.logger.log s.tree r).2.2 ≠ .ok "Level 7: quiet\n" := by
  intro s r
  have hname : levelName 7 = .ok "Level 7" := rfl
  have hconsole : r.console = .ok (.whole "Level 7: quiet") := by
    show (levelName 7).mapError _ >>= _ = _
    rw [hname]
    rfl
  refine ⟨rfl, by decide, hconsole, ?_⟩
  have hstep : s.logger.InStep _ := inStep_afterAll Logger.InStep.unused _ [.setLevel (.int 5)]
  rw [hstep.shown_log s.tree hconsole, if_neg fun hboth => absurd hboth.2 (by decide), Ne,
    Except.ok.injEq]
  decide

end State

end Log

end OpenerPolicy
