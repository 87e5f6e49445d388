/-
  File:      OpenerPolicy/Proofs/Log/Sinks.lean
  Subject:   THE SINKS OF A LOGGER AND THE LOG FILE THAT IS CONFIGURED.

  A logger has a console as soon as it is live, and a log file once one was added. What it does not
  know is whether these are all its sinks: others may add theirs at any time, even before it is live.
  So the invariant counts consoles and log files and says nothing of the other sinks.

  * `Tree.opened`, `opened_spec` -- a log file opened, and what that does to the tree;
  * `Logger.InStep` -- the INVARIANT: one console while the logger is live, and no log file but the one
    that is configured; one lemma for each operation that keeps it;
  * `InStep.count_file` -- the log file that is configured is attached once, and no other is;
  * `Logger.setLevel_eq`, `setLevel_of_refused` -- all that setting a level does;
  * **`InStep.addFile_cases`** -- all that adding a log file does.
-/
import OpenerPolicy.Proofs.Files.Keeping
import OpenerPolicy.Log.Logger

namespace OpenerPolicy

open Files

/-! ## 1. Opening a log file -/

namespace Files.Tree

/-- **A file opened to be added to**, with the directories above it: the tree afterwards, and where the
    file is. -/
def opened (t : Tree) (p : Path) : Tree × Except FileFault Location :=
  match t.makeDirs p.parent with
  | (t, .error f) => (t, .error f)
  | (t, .ok ()) =>
    let target := t.absolute p
    match t.locate target >>= fun l => (t.update l id).map fun t => (l, t) with
    | .error o => (t, .error ⟨o, target.text⟩)
    | .ok (l, t) => (t, .ok l)

/-- The location that a path names, with its dots taken back textually. -/
def target (t : Tree) (p : Path) : Location := (t.absolute p).parts

theorem target_of_working {t t' : Tree} (h : t'.working = t.working) (p : Path) :
    t'.target p = t.target p := by
  rw [target, target, absolute, absolute, origin, origin, h]

/-- **What opening a file does**: no text changes, and if it succeeds, the file is there, at the
    location that its path names. -/
theorem opened_spec (t : Tree) (p : Path) :
    t.Keeps (t.opened p).1 ∧
      ∀ l, (t.opened p).2 = .ok l → l = t.target p ∧ (t.opened p).1.IsFile l := by
  have hdirs := keeps_makeDirs t p.parent
  unfold opened
  split
  · next t' f hmade =>
    rw [hmade] at hdirs
    exact ⟨hdirs, fun l h => by cases h⟩
  · next t' hmade =>
    rw [hmade] at hdirs
    dsimp only
    split
    · exact ⟨hdirs, fun l h => by cases h⟩
    · next l t'' hsteps =>
      obtain ⟨l', hlocate, hupdate⟩ := bind_eq_ok_iff.1 hsteps
      cases hu : t'.update l' id with
      | error o =>
        rw [hu] at hupdate
        cases hupdate
      | ok t₀ =>
        rw [hu] at hupdate
        cases hupdate
        obtain ⟨hkeeps, hfile⟩ := keeps_update_id hu
        refine ⟨hdirs.trans hkeeps, fun l h => ?_⟩
        obtain rfl := Except.ok.inj h
        exact ⟨(locate_absolute hlocate).trans (target_of_working hdirs.working p), hfile⟩

end Files.Tree

namespace Log

/-! ## 2. A logger in step -/

/-- The location of a sink that is a log file. -/
def Sink.file? : Sink → Option Location
  | .file l => some l
  | _ => none

/-- **A logger in step with what has been configured.** -/
structure Logger.InStep (g : Logger) (file : Option Location) : Prop where
  console : g.sinks.count .console = if g.live then 1 else 0
  files : g.sinks.filterMap Sink.file? = file.toList
  added : g.fileAdded = file.isSome
  idle : g.live = false → file = none
  quiet : g.live = true → g.propagates = false

/-- The next use makes the logger as on first use. -/
structure Logger.Idle (g : Logger) : Prop where
  live : g.live = false
  added : g.fileAdded = false

namespace Logger

variable {g : Logger} {file : Option Location}

theorem Idle.ensure (h : g.Idle) : g.ensure = Logger.fresh := by
  rw [Logger.ensure, if_neg (Bool.eq_false_iff.1 h.live), h.added]
  rfl

theorem idle_reset (g : Logger) : g.reset.Idle := ⟨rfl, rfl⟩

theorem ensure_of_live (h : g.live = true) : g.ensure = g := if_pos h

theorem InStep.unused : Logger.unused.InStep none := ⟨rfl, rfl, rfl, fun _ => rfl, fun h => by cases h⟩

theorem InStep.fresh : Logger.fresh.InStep none := ⟨rfl, rfl, rfl, fun _ => rfl, fun _ => rfl⟩

theorem InStep.isIdle (h : g.InStep file) (hlive : g.live = false) : g.Idle := by
  refine ⟨hlive, ?_⟩
  rw [h.added, h.idle hlive]
  rfl

theorem InStep.ensure (h : g.InStep file) : g.ensure.InStep file := by
  cases hlive : g.live with
  | true =>
    rw [ensure_of_live hlive]
    exact h
  | false =>
    rw [(h.isIdle hlive).ensure, h.idle hlive]
    exact InStep.fresh

theorem InStep.reset (h : g.InStep file) : g.reset.InStep none := by
  cases hlive : g.live with
  | true =>
    rw [Logger.reset, if_pos hlive]
    exact ⟨rfl, rfl, rfl, fun _ => rfl, fun h => by cases h⟩
  | false =>
    obtain rfl := h.idle hlive
    have hconsole := h.console
    rw [if_neg (Bool.eq_false_iff.1 hlive)] at hconsole
    rw [Logger.reset, if_neg (Bool.eq_false_iff.1 hlive)]
    exact ⟨hconsole, h.files, rfl, fun _ => rfl, fun h => by cases h⟩

theorem count_file (sinks : List Sink) (l : Location) :
    sinks.count (.file l) = (sinks.filterMap Sink.file?).count l := by
  rw [List.count_filterMap, List.count]
  refine List.countP_congr fun s _ => ?_
  cases s with
  | file l' => simp [Sink.file?]
  | console => simp [Sink.file?]
  | silent level => simp [Sink.file?]

/-- **The log file that is configured is attached once**, and no other is. -/
theorem InStep.count_file (h : g.InStep file) (l : Location) :
    g.sinks.count (.file l) = if file = some l then 1 else 0 := by
  rw [Logger.count_file, h.files]
  cases file with
  | none => rfl
  | some l' => simp [List.count_singleton]

theorem InStep.mem_file_iff (h : g.InStep file) (l : Location) :
    .file l ∈ g.sinks ↔ file = some l := by
  rw [← List.count_pos_iff, h.count_file]
  by_cases hfile : file = some l
  · rw [if_pos hfile]
    exact iff_of_true Nat.one_pos hfile
  · rw [if_neg hfile]
    exact iff_of_false (Nat.lt_irrefl 0) hfile

/-- A logger with a log file is live. -/
theorem InStep.ensure_of_file (h : g.InStep file) {l : Location} (hfile : file = some l) :
    g.ensure = g := by
  cases hlive : g.live with
  | true => exact ensure_of_live hlive
  | false =>
    rw [h.idle hlive] at hfile
    cases hfile

/-! ## 3. Levels and sinks of others -/

/-- The logger with another level. -/
def atLevel (g : Logger) (level : Int) : Logger := { g with level }

@[simp] theorem sinks_atLevel (g : Logger) (level : Int) : (g.atLevel level).sinks = g.sinks := rfl

theorem ensure_atLevel (g : Logger) (level : Int) :
    (g.ensure.atLevel level).ensure = g.ensure.atLevel level :=
  ensure_of_live (ensure_live g)

/-- The level is no part of it. -/
theorem InStep.atLevel (h : g.InStep file) (level : Int) : (g.atLevel level).InStep file :=
  ⟨h.console, h.files, h.added, h.idle, h.quiet⟩

/-- **Setting a level** makes the logger if need be, and changes nothing but its level. -/
theorem setLevel_eq (g : Logger) (level : Value) :
    ∃ n, (g.setLevel level).1 = g.ensure.atLevel n := by
  unfold Logger.setLevel
  dsimp only
  split
  · next given _ => exact ⟨given.value, rfl⟩
  · exact ⟨g.ensure.level, rfl⟩

/-- **A level that is refused** does what asking for the logger does. -/
theorem setLevel_of_refused {level : Value} {f : LevelFault} (h : (g.setLevel level).2 = .error f) :
    (g.setLevel level).1 = g.ensure := by
  unfold Logger.setLevel at h ⊢
  dsimp only at h ⊢
  split
  · next hcheck =>
    rw [hcheck] at h
    cases h
  · rfl

theorem InStep.setLevel (h : g.InStep file) (level : Value) : (g.setLevel level).1.InStep file := by
  obtain ⟨n, heq⟩ := g.setLevel_eq level
  rw [heq]
  exact h.ensure.atLevel n

/-- A sink of someone else is neither a console nor a log file. -/
theorem InStep.addForeign (h : g.InStep file) (level : Value) : (g.addForeign level).1.InStep file := by
  unfold Logger.addForeign
  split
  · next level hlevel =>
    refine ⟨?_, ?_, h.added, h.idle, h.quiet⟩
    · show (g.sinks ++ [Sink.silent level]).count .console = _
      rw [List.count_append, h.console]
      rfl
    · show (g.sinks ++ [Sink.silent level]).filterMap Sink.file? = _
      rw [List.filterMap_append, h.files]
      exact List.append_nil _
  · exact h

theorem Idle.addForeign (h : g.Idle) (level : Value) : (g.addForeign level).1.Idle := by
  unfold Logger.addForeign
  split <;> exact ⟨h.live, h.added⟩

/-! ## 4. Adding a log file -/

/-- The logger with a log file. -/
def withFile (g : Logger) (l : Location) : Logger :=
  { g with sinks := g.sinks ++ [.file l], fileAdded := true }

theorem InStep.withFile (h : g.InStep none) (hlive : g.live = true) (l : Location) :
    (g.withFile l).InStep (some l) := by
  refine ⟨?_, ?_, rfl, fun hidle => ?_, h.quiet⟩
  · show (g.sinks ++ [Sink.file l]).count .console = _
    rw [List.count_append, h.console]
    rfl
  · show (g.sinks ++ [Sink.file l]).filterMap Sink.file? = _
    rw [List.filterMap_append, h.files]
    rfl
  · exact absurd (hlive.symm.trans hidle) (by decide)

/-- The file is opened, and if that succeeds, it becomes a sink. -/
theorem addFile_of_not_added (h : g.fileAdded = false) (t : Tree) (p : Path) :
    g.addFile t p = match t.opened p with
      | (t', .error f) => (g.ensure, t', .error f)
      | (t', .ok l) => (g.ensure.withFile l, t', .ok ()) := by
  have hno : ¬ g.fileAdded = true := Bool.eq_false_iff.1 h
  rw [addFile, if_neg hno, Tree.opened]
  rcases t.makeDirs p.parent with ⟨t', f | _⟩
  · rfl
  · dsimp only
    cases t'.locate (t'.absolute p) >>= fun l => (t'.update l id).map fun t => (l, t) <;> rfl

/-- **Adding a log file**, in all cases: nothing happens if one is configured; else the file is opened.
    If it cannot be, nothing is attached; if it can, it is there and becomes a sink. No text changes. -/
theorem InStep.addFile_cases (h : g.InStep file) (t : Tree) (p : Path) :
    (∃ l, file = some l ∧ g.addFile t p = (g, t, .ok ())) ∨
    (∃ t' f, file = none ∧ t.Keeps t' ∧ (t.opened p).2 = .error f ∧
      g.addFile t p = (g.ensure, t', .error f)) ∨
    (∃ t', file = none ∧ t.Keeps t' ∧ t'.IsFile (t.target p) ∧
      g.addFile t p = (g.ensure.withFile (t.target p), t', .ok ())) := by
  cases file with
  | some l => exact Or.inl ⟨l, rfl, if_pos h.added⟩
  | none =>
    obtain ⟨hkeeps, hopened⟩ := t.opened_spec p
    rw [addFile_of_not_added h.added]
    rcases hopen : t.opened p with ⟨t', f | l⟩
    · rw [hopen] at hkeeps
      exact Or.inr (Or.inl ⟨t', f, rfl, hkeeps, rfl, rfl⟩)
    · rw [hopen] at hkeeps hopened
      obtain ⟨rfl, hfile⟩ := hopened l rfl
      exact Or.inr (Or.inr ⟨t', rfl, hkeeps, hfile, rfl⟩)

end Logger

end Log

end OpenerPolicy
