/-
  File:      OpenerPolicy/Proofs/Log/Transcript.lean
  Subject:   THE TEXT OF A LOG FILE IS WHAT IT HELD BEFORE AND ONE LINE FOR EACH RECORD.

  Levels change, configurations fail or are ignored, the logger is reset and made again with the same
  file or another one. Whatever the run, as long as nobody else touches a log file, its text only grows:
  by the line of each record that was logged while the file was attached and that passed both
  thresholds, in the order logged. No line is lost, written twice, or broken in two.

  * `transcript` -- the text of records in a log file;
  * `State.recordedBy`, `State.recorded` -- the records that a call and a run should leave in a file,
    told from the sinks, the levels and the records alone;
  * `State.Untouched` -- nobody else touches the file in states of a kind;
  * `Logger.textAt_handed`, `Logger.textAt_log` -- one record, handed to the sinks and logged;
  * `State.Ready` -- the INVARIANT: a file that is attached is there; `Ready.after`, `ready_afterAll` --
    it holds after every run in which nobody else touches the file while it is attached;
  * `Ready.textAt_after`, `Ready.textAt_afterAll` -- one call adds what it should, and so does every run;
  * **`log_file_grows`** -- the text of a log file after every run.
-/
import OpenerPolicy.Proofs.Json.OneLine
import OpenerPolicy.Proofs.Log.Calls

namespace OpenerPolicy

open Files

namespace Log

/-! ## 1. The records of a run -/

/-- The line of a record in a log file, or none where its JSON form has a fault. -/
def Record.line? (r : Record) : Option String := r.line.toOption

/-- **The text of records in a log file**: a line for each that has a JSON form, in order. -/
def transcript (records : List Record) : List UInt8 :=
  (records.filterMap Record.line?).flatMap fun line => Text.utf8Bytes (line ++ "\n")

@[simp] theorem transcript_nil : transcript [] = [] := rfl

theorem transcript_append (first second : List Record) :
    transcript (first ++ second) = transcript first ++ transcript second := by
  rw [transcript, List.filterMap_append, List.flatMap_append, transcript, transcript]

theorem transcript_of_ok {r : Record} {line : String} (h : r.line = .ok line) :
    transcript [r] = Text.utf8Bytes (line ++ "\n") := by
  have hone : [r].filterMap Record.line? = [line] :=
    List.filterMap_cons_some (by rw [Record.line?, h]; rfl)
  rw [transcript, hone, List.flatMap_cons, List.flatMap_nil, List.append_nil]

theorem transcript_of_error {r : Record} {f : FormatFault} (h : r.line = .error f) :
    transcript [r] = [] := by
  have hnone : [r].filterMap Record.line? = [] :=
    List.filterMap_cons_none (by rw [Record.line?, h]; rfl)
  rw [transcript, hnone, List.flatMap_nil]

/-- A record whose level has no name has no line. -/
theorem line_of_unnamed {r : Record} {f : ValueFault} (h : levelName r.level = .error f) :
    r.line = .error (.level f) := by
  rw [Record.line, Record.entry, h]
  rfl

/-- The JSON form of a record is printable ASCII, so it is on one line. -/
theorem printable_line? {r : Record} {line : String} (h : r.line? = some line) :
    ∀ c ∈ line.toList, Json.IsPrintable c.toNat := by
  rw [Record.line?] at h
  cases hline : r.line with
  | error f =>
    rw [hline] at h
    cases h
  | ok own =>
    rw [hline] at h
    obtain rfl := Option.some.inj h
    obtain ⟨entry, -, rfl⟩ := map_eq_ok_iff.1 hline
    exact Json.printable_compact entry

namespace State

/-- The record that a call leaves in the file at a location: one that is logged while the file is
    attached, with a level that both the file and the logger admit. -/
def recordedBy (s : State) (l : Location) : Call → List Record
  | .log r =>
    if .file l ∈ s.logger.sinks ∧ warning ≤ r.level ∧ s.logger.threshold ≤ r.level then [r] else []
  | _ => []

/-- **The records that a run leaves in the file at a location**, in the order logged. -/
def recorded (homes : Homes) (l : Location) (s : State) : List Call → List Record
  | [] => []
  | c :: rest => s.recordedBy l c ++ (s.after homes c).recorded homes l rest

/-- The file at a location is among the sinks. -/
def Attached (l : Location) (s : State) : Prop := .file l ∈ s.logger.sinks

/-- **Nobody else touches the file at a location** in states of a kind: what is there stays whenever
    files are changed by others in such a state. -/
def Untouched (homes : Homes) (l : Location) (kind : State → Prop) (s : State) : List Call → Prop
  | [] => True
  | c :: rest =>
    (∀ tree, c = .elsewhere tree → kind s → tree.find? l = s.tree.find? l) ∧
      (s.after homes c).Untouched homes l kind rest

/-- So it is if nothing happens beside the logger. -/
theorem untouched_of_forall {run : List Call} (h : ∀ c ∈ run, ∀ tree, c ≠ .elsewhere tree)
    (homes : Homes) (l : Location) (kind : State → Prop) (s : State) :
    s.Untouched homes l kind run := by
  induction run generalizing s with
  | nil => trivial
  | cons c rest ih =>
    obtain ⟨hc, hrest⟩ := List.forall_mem_cons.1 h
    exact ⟨fun tree heq => absurd heq (hc tree), ih hrest _⟩

end State

/-! ## 2. One record -/

namespace Logger

variable {t : Tree} {l : Location}

theorem isFile_write (h : t.IsFile l) (s : Sink) (r : Record) : (s.write t r).1.IsFile l := by
  cases s with
  | console =>
    rw [Sink.write]
    split <;> exact h
  | file l' =>
    rw [Sink.write]
    split
    · exact Tree.isFile_append h l' _
    · exact h
  | silent level => exact h

theorem isFile_writeAll (h : t.IsFile l) (r : Record) (sinks : List Sink) :
    (writeAll t r sinks).1.IsFile l := by
  induction sinks generalizing t with
  | nil => exact h
  | cons s rest ih =>
    rw [writeAll]
    refine ih ?_
    split
    · exact isFile_write h s r
    · exact h

/-- A sink writes to its own file alone, and one line at most. -/
theorem textAt_write (s : Sink) (h : s = .file l → t.IsFile l) (r : Record) :
    (s.write t r).1.textAt l = t.textAt l ++ transcript (if s = .file l then [r] else []) := by
  cases s with
  | console =>
    rw [Sink.write, if_neg (by simp), transcript_nil, List.append_nil]
    split <;> rfl
  | silent level =>
    rw [Sink.write, if_neg (by simp), transcript_nil, List.append_nil]
  | file l' =>
    by_cases hl : l' = l
    · subst hl
      rw [Sink.write, if_pos rfl]
      cases hline : r.line with
      | ok line =>
        show (t.append l' _).textAt l' = _
        rw [transcript_of_ok hline, Tree.textAt_append (h rfl), if_pos rfl]
      | error f => rw [transcript_of_error hline, List.append_nil]
    · have hne : Sink.file l' ≠ .file l := fun heq => hl (Sink.file.inj heq)
      rw [Sink.write, if_neg hne, transcript_nil, List.append_nil]
      split
      · exact Tree.textAt_append_of_ne hl _
      · rfl

/-- A sink that does not admit the level writes nothing. -/
theorem textAt_offered (s : Sink) (h : s = .file l → t.IsFile l) (r : Record) :
    (if s.admits r.level then s.write t r else (t, "")).1.textAt l
      = t.textAt l ++ transcript (if s = .file l ∧ warning ≤ r.level then [r] else []) := by
  cases hadmits : s.admits r.level with
  | true =>
    rw [if_pos rfl, textAt_write s h r]
    by_cases hs : s = .file l
    · subst hs
      rw [if_pos rfl, if_pos ⟨rfl, of_decide_eq_true hadmits⟩]
    · rw [if_neg hs, if_neg fun hboth => hs hboth.1]
  | false =>
    rw [if_neg Bool.false_ne_true, if_neg, transcript_nil, List.append_nil]
    rintro ⟨rfl, hlevel⟩
    exact of_decide_eq_false hadmits hlevel

/-- **A record written to sinks** is in a file as often as the file is among them, if the file admits
    its level. -/
theorem textAt_writeAll (r : Record) (sinks : List Sink) (h : .file l ∈ sinks → t.IsFile l) :
    (writeAll t r sinks).1.textAt l = t.textAt l
      ++ transcript (if warning ≤ r.level then List.replicate (sinks.count (.file l)) r else []) := by
  induction sinks generalizing t with
  | nil =>
    rw [List.count_nil, List.replicate_zero, ite_self, transcript_nil, List.append_nil]
    rfl
  | cons s rest ih =>
    have hfirst := textAt_offered s (fun hs => h (hs ▸ List.mem_cons_self)) r
    have hthere : .file l ∈ rest →
        (if s.admits r.level then s.write t r else (t, "")).1.IsFile l := by
      intro hmem
      have hfile := h (List.mem_cons_of_mem s hmem)
      split
      · exact isFile_write hfile s r
      · exact hfile
    rw [writeAll]
    dsimp only
    rw [ih hthere, hfirst, List.append_assoc, ← transcript_append, List.count_cons]
    -- the line of the first sink and those of the rest, if the file is meant and admits the level
    by_cases hlevel : warning ≤ r.level
    · by_cases hs : s = .file l
      · rw [if_pos ⟨hs, hlevel⟩, if_pos hlevel, if_pos hlevel, if_pos (beq_iff_eq.2 hs)]
        rfl
      · rw [if_neg fun hboth => hs hboth.1, if_pos hlevel, if_pos hlevel,
          if_neg fun heq => hs (beq_iff_eq.1 heq)]
        rfl
    · rw [if_neg fun hboth => hlevel hboth.2, if_neg hlevel, if_neg hlevel]
      rfl

variable {g : Logger} {file : Option Location}

/-- A level that a file admits is positive, so the logger's own level decides. -/
theorem admits_iff_of_warning (g : Logger) {level : Int} (h : warning ≤ level) :
    g.admits level = true ↔ g.threshold ≤ level := by
  have hpositive : 0 < level := Int.lt_of_lt_of_le (by decide) h
  rw [admits, decide_eq_true hpositive, Bool.true_and, decide_eq_true_iff]

/-- A record whose level has a name is handed to the sinks if it is admitted. -/
theorem tree_log_of_named {r : Record} {name : String} (h : levelName r.level = .ok name) :
    (g.log t r).2.1
      = if g.ensure.admits r.level = true then (writeAll t r g.ensure.sinks).1 else t := by
  rw [log, h]
  dsimp only
  split <;> rfl

/-- One whose level has none is not written anywhere. -/
theorem tree_log_of_unnamed {r : Record} {f : ValueFault} (h : levelName r.level = .error f) :
    (g.log t r).2.1 = t := by
  rw [log, h]
  dsimp only
  split <;> rfl

/-- A record that is handed to the sinks is in the file that is attached, if the file admits its level. -/
theorem textAt_handed (h : g.InStep file) (hthere : file = some l → t.IsFile l) (r : Record) :
    (writeAll t r g.ensure.sinks).1.textAt l = t.textAt l ++ transcript
      (if .file l ∈ g.sinks ∧ warning ≤ r.level then [r] else []) := by
  have hall := textAt_writeAll (t := t) r g.ensure.sinks
    (fun hmem => hthere ((h.ensure.mem_file_iff l).1 hmem))
  have hmem := h.mem_file_iff l
  rw [hall, h.ensure.count_file]
  by_cases hlevel : warning ≤ r.level
  · by_cases hfile : file = some l
    · rw [if_pos hlevel, if_pos hfile, if_pos ⟨hmem.2 hfile, hlevel⟩, List.replicate_one]
    · rw [if_pos hlevel, if_neg hfile, if_neg fun hboth => hfile (hmem.1 hboth.1),
        List.replicate_zero]
  · rw [if_neg hlevel, if_neg fun hboth => hlevel hboth.2]

/-- **A record that is logged** is in the file that is attached, if it passes both thresholds. -/
theorem textAt_log (h : g.InStep file) (hthere : file = some l → t.IsFile l) (r : Record) :
    (g.log t r).2.1.textAt l = t.textAt l ++ transcript
      (if .file l ∈ g.sinks ∧ warning ≤ r.level ∧ g.threshold ≤ r.level then [r] else []) := by
  have hadmitted (hmem : .file l ∈ g.sinks) (hlevel : warning ≤ r.level) :
      g.ensure.admits r.level = true ↔ g.threshold ≤ r.level := by
    rw [h.ensure_of_file ((h.mem_file_iff l).1 hmem)]
    exact admits_iff_of_warning g hlevel
  cases hname : levelName r.level with
  | error f =>
    rw [tree_log_of_unnamed hname]
    split
    · rw [transcript_of_error (line_of_unnamed hname), List.append_nil]
    · rw [transcript_nil, List.append_nil]
  | ok name =>
    rw [tree_log_of_named hname]
    by_cases hadmits : g.ensure.admits r.level = true
    · rw [if_pos hadmits, textAt_handed h hthere r]
      by_cases hboth : .file l ∈ g.sinks ∧ warning ≤ r.level
      · rw [if_pos hboth, if_pos ⟨hboth.1, hboth.2, (hadmitted hboth.1 hboth.2).1 hadmits⟩]
      · rw [if_neg hboth, if_neg fun hthree => hboth ⟨hthree.1, hthree.2.1⟩]
    · rw [if_neg hadmits, if_neg, transcript_nil, List.append_nil]
      rintro ⟨hmem, hlevel, hthreshold⟩
      exact hadmits ((hadmitted hmem hlevel).2 hthreshold)

theorem isFile_log (h : t.IsFile l) (g : Logger) (r : Record) : (g.log t r).2.1.IsFile l := by
  cases hname : levelName r.level with
  | error f =>
    rw [tree_log_of_unnamed hname]
    exact h
  | ok name =>
    rw [tree_log_of_named hname]
    split
    · exact isFile_writeAll h r _
    · exact h

end Logger

/-! ## 3. Calls and runs -/

namespace State

variable {homes : Homes} {s : State} {file : Option Location} {l : Location} {c : Call}

/-- **A state in which a file is there while it is attached.** -/
structure Ready (s : State) (file : Option Location) (l : Location) : Prop where
  inStep : s.logger.InStep file
  there : file = some l → s.tree.IsFile l

/-- A configuration changes no text; the file it attaches is there. -/
theorem configures_keeps (h : s.logger.InStep file) (homes : Homes) (hc : c.configures = true) :
    s.tree.Keeps (s.after homes c).tree ∧
      (s.noted homes file c = some l → file = some l ∨ (s.after homes c).tree.IsFile l) := by
  rcases configures_cases h hc homes with ⟨hfile, n, outcome, hcall⟩ |
    ⟨p, g, hfile, -, -, ⟨l', rfl, hcall⟩ | ⟨t, f, f', rfl, hkeeps, -, hcall⟩ |
      ⟨t, rfl, hkeeps, hthere, hcall⟩⟩
  · rw [noted_of_no_file hc hfile, after, hcall]
    exact ⟨Tree.Keeps.refl s.tree, Or.inl⟩
  · rw [noted_of_ok hfile (congrArg Prod.snd hcall), after, hcall]
    exact ⟨Tree.Keeps.refl s.tree, Or.inl⟩
  · rw [noted_of_failed (congrArg Prod.snd hcall), after, hcall]
    exact ⟨hkeeps, Or.inl⟩
  · rw [noted_of_ok hfile (congrArg Prod.snd hcall), after, hcall]
    refine ⟨hkeeps, fun hnoted => Or.inr ?_⟩
    obtain rfl : s.tree.target p = l := Option.some.inj hnoted
    exact hthere

/-- **A file that is attached stays there**, if nobody else touches it while it is attached. -/
theorem Ready.after (h : s.Ready file l) (homes : Homes)
    (hc : ∀ tree, c = .elsewhere tree → s.Attached l → tree.find? l = s.tree.find? l) :
    (s.after homes c).Ready (s.noted homes file c) l := by
  have hstep := inStep_after h.inStep homes c
  have hconfigures (hc : c.configures = true) :
      (s.after homes c).Ready (s.noted homes file c) l := by
    obtain ⟨hkeeps, hfile⟩ := configures_keeps h.inStep homes hc
    refine ⟨hstep, fun hnoted => ?_⟩
    rcases hfile hnoted with hold | hnew
    · exact hkeeps.files l (h.there hold)
    · exact hnew
  cases c with
  | get => exact ⟨hstep, h.there⟩
  | setLevel level => exact ⟨hstep, h.there⟩
  | addForeign level => exact ⟨hstep, h.there⟩
  | reset => exact ⟨hstep, fun hnone => by cases hnone⟩
  | addFile p => exact hconfigures rfl
  | configure settings => exact hconfigures rfl
  | log r => exact ⟨hstep, fun hfile => Logger.isFile_log (h.there hfile) s.logger r⟩
  | elsewhere tree =>
    refine ⟨hstep, fun hfile => ?_⟩
    obtain ⟨content, hcontent⟩ := h.there hfile
    exact ⟨content, (hc tree rfl ((h.inStep.mem_file_iff l).2 hfile)).trans hcontent⟩

/-- **A call adds to a file what it should**, if nobody else touches it. -/
theorem Ready.textAt_after (h : s.Ready file l) (homes : Homes)
    (hc : ∀ tree, c = .elsewhere tree → tree.find? l = s.tree.find? l) :
    (s.after homes c).tree.textAt l = s.tree.textAt l ++ transcript (s.recordedBy l c) := by
  have hnothing : s.tree.textAt l = s.tree.textAt l ++ transcript [] := (List.append_nil _).symm
  have hconfigures (hc : c.configures = true) :
      (s.after homes c).tree.textAt l = s.tree.textAt l :=
    (configures_keeps (l := l) h.inStep homes hc).1.text l
  cases c with
  | get => exact hnothing
  | setLevel level => exact hnothing
  | addForeign level => exact hnothing
  | reset => exact hnothing
  | addFile p => exact (hconfigures rfl).trans hnothing
  | configure settings => exact (hconfigures rfl).trans hnothing
  | log r => exact Logger.textAt_log h.inStep h.there r
  | elsewhere tree =>
    show tree.textAt l = _
    rw [Tree.textAt, hc tree rfl, ← Tree.textAt]
    exact hnothing

/-- **A run adds to a file what it should.** -/
theorem Ready.textAt_afterAll (h : s.Ready file l) {run : List Call}
    (hrun : s.Untouched homes l (fun _ => True) run) :
    (s.afterAll homes run).tree.textAt l
      = s.tree.textAt l ++ transcript (s.recorded homes l run) := by
  induction run generalizing s file with
  | nil => exact (List.append_nil _).symm
  | cons c rest ih =>
    obtain ⟨hc, hrest⟩ := hrun
    have hready := h.after homes fun tree heq _ => hc tree heq trivial
    have htext := h.textAt_after homes fun tree heq => hc tree heq trivial
    rw [afterAll_cons, ih hready hrest, htext, recorded, transcript_append, List.append_assoc]

/-- **A file is there while it is attached**, after every run in which nobody else touches it then. -/
theorem ready_afterAll (h : s.Ready file l) {run : List Call}
    (hrun : s.Untouched homes l (Attached l) run) :
    ∃ file', (s.afterAll homes run).Ready file' l := by
  induction run generalizing s file with
  | nil => exact ⟨file, h⟩
  | cons c rest ih => exact ih (h.after homes hrun.1) hrun.2

/-- **The text of a log file**, whatever was asked of the logger before, as long as nobody else touched
    the file while it was attached, and whatever is asked of it in a run in which nobody else touches
    the file at all: it is the text before the run and one line for each record that was logged while
    the file was attached, with a level that both the file and the logger admitted at that moment, and
    that has a JSON form; in the order logged. A line is the JSON form of its record, in printable
    ASCII, so it does not break. -/
theorem log_file_grows (homes : Homes) (tree : Tree) (before run : List Call) (l : Location)
    (hbefore : Untouched homes l (Attached l) ⟨.unused, tree⟩ before) :
    let s := afterAll homes ⟨.unused, tree⟩ before
    s.Untouched homes l (fun _ => True) run →
    let lines := (s.recorded homes l run).filterMap Record.line?
    (s.afterAll homes run).tree.textAt l
      = s.tree.textAt l ++ lines.flatMap (fun line => Text.utf8Bytes (line ++ "\n")) ∧
    ∀ line ∈ lines, ∀ c ∈ line.toList, Json.IsPrintable c.toNat := by
  intro s hrun lines
  have hstart : Ready ⟨.unused, tree⟩ none l := ⟨Logger.InStep.unused, fun hnone => by cases hnone⟩
  obtain ⟨file, hready⟩ := ready_afterAll hstart hbefore
  refine ⟨hready.textAt_afterAll hrun, fun line hline => ?_⟩
  obtain ⟨r, -, hr⟩ := List.mem_filterMap.1 hline
  exact printable_line? hr

/-- An integer of one digit too many. -/
def tooLong : Int := Nat.pow 10 Number.maxIntegerDigits

/-- Two records of seven are in the file: of the others, two are logged while it is not attached, one is
    below the level that was set, one has an argument of the wrong kind, and one a message with an
    integer of too many digits. -/
theorem two_lines_written :
    let report (level : Int) (message : Value) (arguments : List Value) : Call :=
      .log ⟨⟨level, message, arguments⟩, .whole 0⟩
    let run : List Call :=
      [report warning (.str "early") [], .addFile ⟨0, ["system.jsonl"]⟩,
        report warning (.str "disk\nfull") [], report warning (.int tooLong) [],
        .setLevel (.str "ERROR"), report warning (.str "low") [], report error (.str "%d") [.str "many"],
        .reset, report error (.str "late") [], .addFile ⟨0, ["system.jsonl"]⟩,
        report error (.str "lost") []]
    (afterAll (fun _ => some ⟨1, ["home"]⟩) ⟨.unused, siteTree⟩ run).tree.textAt
        ["site", "system.jsonl"]
      = Text.utf8Bytes
          ("\x7b\"time\": \"1970-01-01T00:00:00.000Z\", \"level\": \"WARNING\", "
            ++ "\"message\": \"disk\\nfull\"\x7d\n"
            ++ "\x7b\"time\": \"1970-01-01T00:00:00.000Z\", \"level\": \"ERROR\", "
            ++ "\"message\": \"lost\"\x7d\n") := by
  intro report run
  have hrun : ∀ c ∈ run, ∀ tree, c ≠ .elsewhere tree := by
    simp [run, report]
  obtain ⟨htext, -⟩ := log_file_grows (fun _ => some ⟨1, ["home"]⟩) siteTree [] run
    ["site", "system.jsonl"] trivial (untouched_of_forall hrun _ _ _ ⟨.unused, siteTree⟩)
  rw [afterAll_nil] at htext
  rw [htext]
  decide +kernel

end State

end Log

end OpenerPolicy
