/-
  File:      OpenerPolicy/Proofs/Pipeline/Deeds.lean
  Subject:   ALL THAT IS DONE TO ONE RESPONSE, ONE TOUCH AFTER THE OTHER.

  A response is changed by operations, by callbacks of interceptors and by whole phases of pipelines.
  All of it comes down to single touches: operations, and claims of the opener interceptor, whose
  setters stay with it. Which touches a callback makes depends on how the earlier ones went, and which
  callbacks a phase makes on how these end; the touches of a run are told here as they are made.

  * `Touch`, `Writer.touch`, `Writer.touchAll` -- single touches, and the writer after them;
    `attempt_cases` -- what a touch can do;
  * `Program.touches`, `Directives.touches` -- the touches of a callback; `writer_run`, `writer_emit`
    -- they are all that it does;
  * `Guest`, `Party`, `Seat` -- interceptors that act through the writer's interface, and their places
    in a pipeline; `confined_iff_exists_party` -- **every confined interceptor is one of them**;
  * `Deed`, `Writer.afterDeeds` -- operations, callbacks and phases, and the writer after them;
  * `Writer.touchesOf` -- the touches of a run; **`afterDeeds_eq`** -- they are all that it does;
  * `sound_afterDeeds` -- a writer is sound after every run.
-/
import OpenerPolicy.Proofs.Pipeline.Confinement
import OpenerPolicy.Proofs.Pipeline.Stopping

namespace OpenerPolicy

/-! ## 1. Touches -/

/-- **A single thing that is done to a response.** -/
inductive Touch where
  | perform (o : Operation)
  /-- Claims a header and sets it at once; the setter stays with whoever claimed it. -/
  | keep (name : String) (values : List String)
  deriving DecidableEq, Repr

namespace Writer

/-- The writer after a touch, or why it fails. -/
def attempt (w : Writer) : Touch → Except Fault Writer
  | .perform o => w.perform o
  | .keep name values =>
    match w.header.claim name with
    | .error f => .error (.header f)
    | .ok (header, s) => .ok { w with header := header.assign s values }

/-- **The writer after a touch**; one that fails changes nothing. -/
def touch (w : Writer) (t : Touch) : Writer :=
  match w.attempt t with
  | .ok w' => w'
  | .error _ => w

/-- The writer after touches, one after the other. -/
def touchAll (w : Writer) (touches : List Touch) : Writer := touches.foldl touch w

@[simp] theorem touchAll_cons (w : Writer) (t : Touch) (rest : List Touch) :
    w.touchAll (t :: rest) = (w.touch t).touchAll rest := rfl

theorem touchAll_append (w : Writer) (first second : List Touch) :
    w.touchAll (first ++ second) = (w.touchAll first).touchAll second :=
  List.foldl_append

theorem touch_of_ok {w w' : Writer} {t : Touch} (h : w.attempt t = .ok w') : w.touch t = w' := by
  rw [touch, h]

theorem touch_of_error {w : Writer} {t : Touch} {f : Fault} (h : w.attempt t = .error f) :
    w.touch t = w := by
  rw [touch, h]

theorem attempt_keep_of_mem {w : Writer} {name : String} (hc : headerKey name ∈ w.header.claims)
    (values : List String) :
    w.attempt (.keep name values) = .error (.header (.claimedTwice name)) := by
  rw [attempt, Header.claim_of_mem hc]

theorem attempt_keep_of_not_mem {w : Writer} {name : String} (hc : headerKey name ∉ w.header.claims)
    (values : List String) : w.attempt (.keep name values) = .ok (w.kept name values) := by
  rw [attempt, Header.claim_of_not_mem hc]
  rfl

/-- **What a touch can do**: it follows the rule of its operation, or keeps a header that was not
    claimed, or fails and changes nothing. -/
theorem attempt_cases (w : Writer) (t : Touch) :
    (∃ o, t = .perform o ∧ w.Effect o (w.touch t)) ∨
    (∃ name values, t = .keep name values ∧ headerKey name ∉ w.header.claims ∧
      w.touch t = w.kept name values) ∨
    w.touch t = w := by
  cases t with
  | perform o =>
    rcases effect_or_after_eq w o with he | he
    · exact Or.inl ⟨o, rfl, he⟩
    · exact Or.inr (Or.inr he)
  | keep name values =>
    by_cases hc : headerKey name ∈ w.header.claims
    · exact Or.inr (Or.inr (touch_of_error (attempt_keep_of_mem hc values)))
    · exact Or.inr (Or.inl ⟨name, values, rfl, hc, touch_of_ok (attempt_keep_of_not_mem hc values)⟩)

/-- **Every touch keeps a writer sound.** -/
theorem Sound.touch {w : Writer} (h : w.Sound) (t : Touch) : (w.touch t).Sound := by
  rcases attempt_cases w t with ⟨o, -, he⟩ | ⟨name, values, -, hc, heq⟩ | heq
  · exact h.effect he
  · rw [heq]
    exact h.kept hc values
  · rw [heq]
    exact h

theorem Sound.touchAll {w : Writer} (h : w.Sound) (touches : List Touch) :
    (w.touchAll touches).Sound := by
  induction touches generalizing w with
  | nil => exact h
  | cons t rest ih => exact ih (h.touch t)

end Writer

/-! ## 2. The touches of a callback -/

/-- **The operations that a program performs**, in order. -/
def Program.touches : Program → Writer → List Touch
  | .finish _, _ => []
  | .fail _, _ => []
  | .look next, w => (next w).touches w
  | .perform o next, w =>
    .perform o ::
      match w.perform o with
      | .ok w' => (next none).touches w'
      | .error f => (next (some f)).touches w

/-- All that a program does are its touches. -/
theorem Program.writer_run (p : Program) (w : Writer) : (p.run w).2 = w.touchAll (p.touches w) := by
  induction p generalizing w with
  | finish written => rfl
  | fail f => rfl
  | look next ih => exact ih w w
  | perform o next ih =>
    rw [run, touches, Writer.touchAll_cons, Writer.touch, Writer.attempt]
    cases w.perform o with
    | ok w' => exact ih none w'
    | error f => exact ih (some f) w

/-- **The claims of an opener interceptor**: the second one is made if the first one succeeds. -/
def Directives.touches (d : Directives) (w : Writer) : List Touch :=
  .keep openerHeader d.enforced ::
    match w.attempt (.keep openerHeader d.enforced) with
    | .ok _ => [.keep reportOnlyHeader d.reportOnly]
    | .error _ => []

/-- All that an opener interceptor does are its touches. -/
theorem Directives.writer_emit (d : Directives) (w : Writer) :
    (d.emit w).2 = w.touchAll (d.touches w) := by
  by_cases h₁ : headerKey openerHeader ∈ w.header.claims
  · have hfail := Writer.attempt_keep_of_mem h₁ d.enforced
    rw [emit_eq, if_pos h₁, touches, hfail, Writer.touchAll_cons, Writer.touch_of_error hfail]
    rfl
  · have hok := Writer.attempt_keep_of_not_mem h₁ d.enforced
    rw [emit_eq, if_neg h₁, touches, hok, Writer.touchAll_cons, Writer.touch_of_ok hok]
    by_cases h₂ : headerKey reportOnlyHeader ∈ (w.kept openerHeader d.enforced).header.claims
    · have hfail := Writer.attempt_keep_of_mem h₂ d.reportOnly
      rw [if_pos h₂, Writer.touchAll_cons, Writer.touch_of_error hfail]
      rfl
    · have hok := Writer.attempt_keep_of_not_mem h₂ d.reportOnly
      rw [if_neg h₂, Writer.touchAll_cons, Writer.touch_of_ok hok]
      rfl

/-! ## 3. Interceptors that act through the writer's interface -/

/-- An interceptor of another kind, by the programs of its callbacks. -/
structure Guest (ρ : Type) where
  typeName : String
  label : String
  program : Phase → Request → Option ρ → Option Config → Program

/-- **Who takes part in a pipeline** and acts through the writer's interface. -/
inductive Party (ρ : Type) where
  | opener (d : Directives)
  | guest (g : Guest ρ)

/-- A place in a pipeline: who takes it, and the config that is bound to it. -/
structure Seat (ρ : Type) where
  party : Party ρ
  config : Option Config

section Parties

variable {ρ : Type}

def Party.interceptor : Party ρ → Interceptor ρ
  | .opener d => .opener d
  | .guest g => .foreign ⟨g.typeName, g.label, fun phase request reply config =>
      (g.program phase request reply config).run⟩

/-- **Every confined interceptor is a party**, and no other one is. -/
theorem confined_iff_exists_party (i : Interceptor ρ) : i.Confined ↔ ∃ p : Party ρ, p.interceptor = i := by
  constructor
  · intro h
    cases i with
    | opener d => exact ⟨.opener d, rfl⟩
    | foreign f =>
      have hprogram : ∀ phase request reply config,
          (Classical.choose (h phase request reply config)).run = f.act phase request reply config :=
        fun phase request reply config => (Classical.choose_spec (h phase request reply config)).symm
      refine ⟨.guest ⟨f.typeName, f.label, fun phase request reply config =>
        Classical.choose (h phase request reply config)⟩, ?_⟩
      rw [Party.interceptor]
      simp only [hprogram]
  · rintro ⟨p, rfl⟩
    cases p with
    | opener d => exact trivial
    | guest g => exact fun _ _ _ _ => ⟨_, rfl⟩

def Seat.binding (s : Seat ρ) : Binding ρ := ⟨s.party.interceptor, s.config⟩

section Acting

variable (phase : Phase) (request : Request) (reply : Option ρ)

/-- **The touches of a callback.** -/
def Seat.touches (s : Seat ρ) (w : Writer) : List Touch :=
  match s.party, phase with
  | .opener d, .before => (Interceptor.effective d s.config).touches w
  | .opener _, _ => []
  | .guest g, phase => (g.program phase request reply s.config).touches w

/-- The touches of callbacks, one after the other. -/
def touchesBy : List (Seat ρ) → Writer → List Touch
  | [], _ => []
  | s :: rest, w =>
    s.touches phase request reply w ++ touchesBy rest (s.binding.act phase request reply w).2

/-- All that a callback does are its touches. -/
theorem writer_act (s : Seat ρ) (w : Writer) :
    (s.binding.act phase request reply w).2 = w.touchAll (s.touches phase request reply w) := by
  obtain ⟨party, config⟩ := s
  cases party with
  | opener d =>
    cases phase with
    | before => exact (Interceptor.effective d config).writer_emit w
    | commit => rfl
    | onError => rfl
  | guest g => exact (g.program phase request reply config).writer_run w

theorem leftBy_seats (seats : List (Seat ρ)) (w : Writer) :
    leftBy phase request reply (seats.map Seat.binding) w
      = w.touchAll (touchesBy phase request reply seats w) := by
  induction seats generalizing w with
  | nil => rfl
  | cons s rest ih =>
    rw [touchesBy, Writer.touchAll_append, ← writer_act, ← ih]
    rfl

/-- The seats up to the first whose answer stops the phase. -/
def actingSeats (seats : List (Seat ρ)) (w : Writer) : List (Seat ρ) :=
  seats.take (actingOf phase request reply (seats.map Seat.binding) w).length

theorem map_actingSeats (seats : List (Seat ρ)) (w : Writer) :
    (actingSeats phase request reply seats w).map Seat.binding
      = actingOf phase request reply (seats.map Seat.binding) w := by
  rw [actingSeats, List.map_take]
  exact (List.prefix_iff_eq_take.1 (List.take_prefix _ _)).symm

end Acting

end Parties

/-! ## 4. Runs -/

/-- **What can be done to one response.** -/
inductive Deed (ρ : Type) where
  | operation (o : Operation)
  /-- A single interceptor is called. -/
  | callback (s : Seat ρ) (phase : Phase) (request : Request) (reply : Option ρ)
  /-- A phase of a whole pipeline is run. -/
  | phase (seats : List (Seat ρ)) (phase : Phase) (request : Request) (reply : Option ρ)

namespace Writer

variable {ρ : Type}

/-- The writer after a deed, however it ends. -/
def afterDeed (w : Writer) : Deed ρ → Writer
  | .operation o => w.after o
  | .callback s phase request reply =>
    (s.party.interceptor.act phase request reply s.config w).2
  | .phase seats phase request reply =>
    (runPhase phase (seats.map Seat.binding) request reply w).writer

/-- **The writer after deeds**, one after the other. -/
def afterDeeds (w : Writer) (deeds : List (Deed ρ)) : Writer := deeds.foldl afterDeed w

/-- The touches of a deed. -/
def touchesIn (w : Writer) : Deed ρ → List Touch
  | .operation o => [.perform o]
  | .callback s phase request reply => s.touches phase request reply w
  | .phase seats phase request reply =>
    touchesBy phase request reply (actingSeats phase request reply seats w) w

/-- **The touches of a run**, in order. -/
def touchesOf (w : Writer) : List (Deed ρ) → List Touch
  | [] => []
  | deed :: rest => w.touchesIn deed ++ (w.afterDeed deed).touchesOf rest

theorem afterDeed_eq (w : Writer) (deed : Deed ρ) :
    w.afterDeed deed = w.touchAll (w.touchesIn deed) := by
  cases deed with
  | operation o => rfl
  | callback s phase request reply => exact writer_act phase request reply s w
  | phase seats phase request reply =>
    rw [afterDeed, runPhase, runFrom_eq, touchesIn, ← leftBy_seats, map_actingSeats]

/-- **All that a run does are its touches.** -/
theorem afterDeeds_eq (w : Writer) (deeds : List (Deed ρ)) :
    w.afterDeeds deeds = w.touchAll (w.touchesOf deeds) := by
  induction deeds generalizing w with
  | nil => rfl
  | cons deed rest ih =>
    rw [touchesOf, touchAll_append, ← afterDeed_eq, ← ih]
    rfl

/-- **A writer is sound after every run.** -/
theorem sound_afterDeeds {w : Writer} (h : w.Sound) (deeds : List (Deed ρ)) :
    (w.afterDeeds deeds).Sound := by
  rw [afterDeeds_eq]
  exact h.touchAll _

end Writer

end OpenerPolicy
