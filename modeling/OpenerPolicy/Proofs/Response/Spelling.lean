/-
  File:      OpenerPolicy/Proofs/Response/Spelling.lean
  Subject:   THE SPELLING OF A NAME MAKES NO DIFFERENCE.

  Whatever is done to headers and asked of them goes through the keys of names. So a run is followed,
  step by step, by the run in which every name is its own key, and two runs that differ in spelling
  alone are followed by the same one.

  * `Question`, `Header.ask` -- what headers can be asked, and their answers;
  * `Header.lowered`, `Writer.lowered` -- headers and writers with every name spelled as its key;
    `ask_lowered`, **`perform_lowered`** -- questions and operations commute with this spelling;
  * `HeaderStep`, `Writer.observe` -- a run of operations and questions, and all that its caller gets
    to see; `observe_lowered` -- so does a whole run;
  * **`observe_respelled`** -- two runs whose names differ in spelling alone are told the same: the
    same operations fail, the same answers are given, and the same values are emitted in the same
    order, under names that differ in spelling alone.
-/
import OpenerPolicy.Proofs.Response.Operations

namespace OpenerPolicy

/-! ## 1. Entries changed under their keys -/

namespace Keyed

variable {κ α β : Type} [DecidableEq κ]

/-- The entries with a change made to each of them, under the keys they had. -/
def mapEntries (f : α → β) (l : Keyed κ α) : Keyed κ β := l.map fun e => (e.1, f e.2)

theorem find?_mapEntries (f : α → β) (l : Keyed κ α) (k : κ) :
    (l.mapEntries f).find? k = (l.find? k).map f := by
  induction l with
  | nil => rfl
  | cons e rest ih =>
    obtain ⟨k', a⟩ := e
    show find? ((k', f a) :: mapEntries f rest) k = _
    by_cases hk : k' = k
    · rw [find?, find?, if_pos hk, if_pos hk]
      rfl
    · rw [find?, find?, if_neg hk, if_neg hk]
      exact ih

theorem put_mapEntries (f : α → β) (l : Keyed κ α) (k : κ) (a : α) :
    (l.mapEntries f).put k (f a) = (l.put k a).mapEntries f := by
  induction l with
  | nil => rfl
  | cons e rest ih =>
    obtain ⟨k', a'⟩ := e
    show put ((k', f a') :: mapEntries f rest) k (f a) = _
    by_cases hk : k' = k
    · rw [put, put, if_pos hk, if_pos hk]
      rfl
    · rw [put, put, if_neg hk, if_neg hk, ih]
      rfl

theorem remove_mapEntries (f : α → β) (l : Keyed κ α) (k : κ) :
    (l.mapEntries f).remove k = (l.remove k).mapEntries f := by
  unfold remove mapEntries
  rw [List.filter_map]
  rfl

theorem ofList_mapEntries (f : α → β) (entries : List (κ × α)) :
    ofList (mapEntries f entries) = (ofList entries).mapEntries f := by
  have go : ∀ (entries : List (κ × α)) (l : Keyed κ α),
      (mapEntries f entries).foldl (fun l e => put l e.1 e.2) (l.mapEntries f)
        = (entries.foldl (fun l e => put l e.1 e.2) l).mapEntries f := by
    intro entries
    induction entries with
    | nil => exact fun _ => rfl
    | cons e rest ih =>
      intro l
      have hput := put_mapEntries f l e.1 e.2
      show (mapEntries f rest).foldl (fun l e => put l e.1 e.2) ((l.mapEntries f).put e.1 (f e.2)) = _
      rw [hput]
      exact ih (l.put e.1 e.2)
  exact go entries []

end Keyed

/-! ## 2. Questions -/

/-- What headers can be asked. -/
inductive Question where
  | get (name : String)
  | values (name : String)
  | isClaimed (name : String)
  | contains (name : String)
  | claimed
  | items
  deriving DecidableEq, Repr

/-- The answer to a question. -/
inductive Finding where
  | value (first : Option String)
  | values (all : List String)
  | truth (b : Bool)
  | names (keys : List String)
  | entries (emitted : List Entry)
  deriving DecidableEq, Repr

/-- **The answer of headers to a question.** -/
def Header.ask (h : Header) : Question → Finding
  | .get name => .value (h.get? name)
  | .values name => .values (h.values name)
  | .isClaimed name => .truth (h.isClaimed name)
  | .contains name => .truth (h.contains name)
  | .claimed => .names h.claimed
  | .items => .entries h.items

/-! ## 3. Names spelled as their keys -/

def Entry.lowered (e : Entry) : Entry := { e with name := headerKey e.name }

def Setter.lowered (s : Setter) : Setter := { s with name := headerKey s.name }

def HeaderFault.lowered : HeaderFault → HeaderFault
  | .claimedTwice name => .claimedTwice (headerKey name)
  | .claimed name => .claimed (headerKey name)

/-- The fault with the name it is about spelled as its key. Only faults of headers name one. -/
def Fault.lowered : Fault → Fault
  | .header f => .header f.lowered
  | f => f

def Operation.lowered : Operation → Operation
  | .claim name => .claim (headerKey name)
  | .assign index values => .assign index values
  | .set name value => .set (headerKey name) value
  | .add name value => .add (headerKey name) value
  | .delete name => .delete (headerKey name)
  | .write body status => .write body status

def Question.lowered : Question → Question
  | .get name => .get (headerKey name)
  | .values name => .values (headerKey name)
  | .isClaimed name => .isClaimed (headerKey name)
  | .contains name => .contains (headerKey name)
  | .claimed => .claimed
  | .items => .items

/-- The answer with the names of emitted headers spelled as their keys; every other answer is left
    as it is. -/
def Finding.lowered : Finding → Finding
  | .entries emitted => .entries (emitted.map Entry.lowered)
  | answer => answer

namespace Header

/-- The headers with every name spelled as its key. -/
def lowered (h : Header) : Header := { h with entries := h.entries.mapEntries Entry.lowered }

theorem isClaimed_lowered (h : Header) (name : String) :
    h.lowered.isClaimed (headerKey name) = h.isClaimed name := by
  rw [isClaimed, isClaimed, headerKey_headerKey]
  rfl

theorem values_lowered (h : Header) (name : String) :
    h.lowered.values (headerKey name) = h.values name := by
  have hfind := Keyed.find?_mapEntries Entry.lowered h.entries (headerKey name)
  rw [values, headerKey_headerKey, lowered, hfind, Option.map_map]
  rfl

theorem items_lowered (h : Header) : h.lowered.items = h.items.map Entry.lowered := by
  have hsnd : (h.entries.mapEntries Entry.lowered).map Prod.snd
      = (h.entries.map Prod.snd).map Entry.lowered := by
    rw [Keyed.mapEntries, List.map_map, List.map_map]
    rfl
  rw [items, lowered, hsnd, List.filter_map]
  rfl

/-- **A question about a key has the answer of the question about the name.** -/
theorem ask_lowered (h : Header) (q : Question) : h.lowered.ask q.lowered = (h.ask q).lowered := by
  cases q with
  | get name =>
    show Finding.value (h.lowered.get? (headerKey name)) = _
    rw [get?_eq_head?, values_lowered, ← get?_eq_head?]
    rfl
  | values name =>
    show Finding.values (h.lowered.values (headerKey name)) = _
    rw [values_lowered]
    rfl
  | isClaimed name =>
    show Finding.truth (h.lowered.isClaimed (headerKey name)) = _
    rw [isClaimed_lowered]
    rfl
  | contains name =>
    show Finding.truth (h.lowered.contains (headerKey name)) = _
    rw [contains, values_lowered]
    rfl
  | claimed => rfl
  | items =>
    show Finding.entries h.lowered.items = _
    rw [items_lowered]
    rfl

/-- Two spellings of one name have one entry at the start. -/
theorem ofList_lowered (initial : List (String × List String)) :
    ofList (initial.map fun e => (headerKey e.1, e.2)) = (ofList initial).lowered := by
  have hmap : (initial.map fun e => (headerKey e.1, e.2)).map
        (fun e => (headerKey e.1, (⟨e.1, e.2⟩ : Entry)))
      = Keyed.mapEntries Entry.lowered
        (initial.map fun e => (headerKey e.1, (⟨e.1, e.2⟩ : Entry))) := by
    rw [Keyed.mapEntries, List.map_map, List.map_map]
    refine List.map_congr_left fun e _ => ?_
    show (headerKey (headerKey e.1), (⟨headerKey e.1, e.2⟩ : Entry)) = _
    rw [headerKey_headerKey]
    rfl
  show (⟨Keyed.ofList _, []⟩ : Header) = _
  rw [hmap, Keyed.ofList_mapEntries]
  rfl

theorem remove_lowered (h : Header) (key : String) (claims : List String) :
    lowered ⟨h.entries.remove key, claims⟩ = ⟨h.lowered.entries.remove key, claims⟩ := by
  rw [lowered, lowered, Keyed.remove_mapEntries]

theorem put_lowered (h : Header) (key : String) (e : Entry) (claims : List String) :
    lowered ⟨h.entries.put key e, claims⟩ = ⟨h.lowered.entries.put key e.lowered, claims⟩ := by
  rw [lowered, lowered, Keyed.put_mapEntries]

theorem assign_lowered (h : Header) (s : Setter) (values : List String) :
    h.lowered.assign s.lowered values = (h.assign s values).lowered := by
  unfold assign
  split
  · exact (h.remove_lowered s.key h.claims).symm
  · exact (h.put_lowered s.key ⟨s.name, values⟩ h.claims).symm

/-- The entry after a value was added depends on the spelling in its name alone. -/
theorem added_lowered (h : Header) (name value : String) :
    h.lowered.added (headerKey name) value = (h.added name value).lowered := by
  have hfind := Keyed.find?_mapEntries Entry.lowered h.entries (headerKey name)
  rw [added, added, headerKey_headerKey, lowered, hfind]
  cases h.entries.find? (headerKey name) <;> rfl

end Header

/-! ## 4. Operations -/

namespace Writer

/-- The writer with every name spelled as its key. -/
def lowered (w : Writer) : Writer :=
  { w with header := w.header.lowered, setters := w.setters.map Setter.lowered }

/-- What an operation does is done to the keys as well. -/
theorem Effect.lowered {w w' : Writer} {o : Operation} (h : w.Effect o w') :
    w.lowered.Effect o.lowered w'.lowered := by
  -- a name is claimed under its key, and so the condition of a rule carries over
  have hfree : ∀ {name : String}, headerKey name ∉ w.header.claims →
      headerKey (headerKey name) ∉ w.lowered.header.claims := by
    intro name hc
    rw [headerKey_headerKey]
    exact hc
  cases h with
  | claim name hc =>
    have he := Effect.claim (w := w.lowered) (headerKey name) (hfree hc)
    rw [headerKey_headerKey] at he
    show w.lowered.Effect _ ⟨Header.lowered _, (_ ++ [_]).map Setter.lowered, _, _⟩
    rw [Header.remove_lowered, List.map_append]
    exact he
  | assign index values s hs =>
    have hs' : w.lowered.setters[index]? = some s.lowered := by
      rw [Writer.lowered, List.getElem?_map, hs]
      rfl
    have he := Effect.assign (w := w.lowered) index values s.lowered hs'
    show w.lowered.Effect _ ⟨Header.lowered _, _, _, _⟩
    rw [← Header.assign_lowered]
    exact he
  | idle index values hs =>
    have hs' : w.lowered.setters[index]? = none := by
      rw [Writer.lowered, List.getElem?_map, hs]
      rfl
    exact .idle index values hs'
  | set name value hc =>
    have he := Effect.set (w := w.lowered) (headerKey name) value (hfree hc)
    rw [headerKey_headerKey] at he
    show w.lowered.Effect _ ⟨Header.lowered _, _, _, _⟩
    rw [Header.put_lowered]
    exact he
  | add name value hc =>
    have he := Effect.add (w := w.lowered) (headerKey name) value (hfree hc)
    rw [headerKey_headerKey] at he
    show w.lowered.Effect _ ⟨Header.lowered _, _, _, _⟩
    rw [Header.put_lowered, ← Header.added_lowered]
    exact he
  | delete name hc =>
    have he := Effect.delete (w := w.lowered) (headerKey name) (hfree hc)
    rw [headerKey_headerKey] at he
    show w.lowered.Effect _ ⟨Header.lowered _, _, _, _⟩
    rw [Header.remove_lowered]
    exact he
  | write body status hw => exact .write body status hw

/-- An operation that fails does so for the key as well. -/
theorem perform_lowered_of_error {w : Writer} {o : Operation} {f : Fault}
    (h : w.perform o = .error f) : w.lowered.perform o.lowered = .error f.lowered := by
  rcases (perform_eq_error_iff w o f).1 h with ⟨refusal, hr, hc, rfl⟩ | ⟨body, status, earlier, rfl, hw, rfl⟩
  · have hr' : o.lowered.refusal? = some refusal.lowered := by
      cases o with
      | claim name => exact congrArg (Option.map HeaderFault.lowered) hr
      | set name value => exact congrArg (Option.map HeaderFault.lowered) hr
      | add name value => exact congrArg (Option.map HeaderFault.lowered) hr
      | delete name => exact congrArg (Option.map HeaderFault.lowered) hr
      | assign index values => cases hr
      | write body status => cases hr
    have hc' : headerKey refusal.lowered.name ∈ w.lowered.header.claims := by
      cases refusal with
      | claimedTwice name => exact (headerKey_headerKey name).symm ▸ hc
      | claimed name => exact (headerKey_headerKey name).symm ▸ hc
    exact perform_of_mem hr' hc'
  · exact (perform_eq_error_iff _ _ _).2 (Or.inr ⟨body, status, earlier, rfl, hw, rfl⟩)

/-- **An operation on a key does what the operation on the name does**: it fails in the same cases,
    and has the same effect otherwise. -/
theorem perform_lowered (w : Writer) (o : Operation) :
    w.lowered.perform o.lowered = ((w.perform o).map lowered).mapError Fault.lowered := by
  cases h : w.perform o with
  | ok w' => exact ((perform_eq_ok_iff w w' o).1 h).lowered.perform
  | error f => exact perform_lowered_of_error h

end Writer

/-! ## 5. Runs -/

/-- One step of a run: an operation, or a question about the headers. -/
inductive HeaderStep where
  | perform (o : Operation)
  | ask (q : Question)
  deriving DecidableEq, Repr

def HeaderStep.lowered : HeaderStep → HeaderStep
  | .perform o => .perform o.lowered
  | .ask q => .ask q.lowered

/-- What the caller of a step gets to see. -/
inductive Sight where
  /-- The operation succeeded. -/
  | done
  | failed (f : Fault)
  | told (answer : Finding)

/-- What is seen, with names spelled as their keys: those that faults are about and those under which
    headers are emitted. -/
def Sight.lowered : Sight → Sight
  | .done => .done
  | .failed f => .failed f.lowered
  | .told answer => .told answer.lowered

namespace Writer

/-- What the caller of an operation gets to see. -/
def sight (w : Writer) (o : Operation) : Sight :=
  match w.perform o with
  | .ok _ => .done
  | .error f => .failed f

/-- **All that is seen in a run**, step by step. -/
def observe (w : Writer) : List HeaderStep → List Sight
  | [] => []
  | .perform o :: rest => w.sight o :: (w.after o).observe rest
  | .ask q :: rest => .told (w.header.ask q) :: w.observe rest

theorem sight_lowered (w : Writer) (o : Operation) :
    w.lowered.sight o.lowered = (w.sight o).lowered := by
  rw [sight, sight, perform_lowered]
  cases w.perform o <;> rfl

theorem after_lowered (w : Writer) (o : Operation) :
    w.lowered.after o.lowered = (w.after o).lowered := by
  rw [after, after, perform_lowered]
  cases w.perform o <;> rfl

/-- **A run on keys is told what the run on names is told.** -/
theorem observe_lowered (w : Writer) (run : List HeaderStep) :
    w.lowered.observe (run.map HeaderStep.lowered) = (w.observe run).map Sight.lowered := by
  induction run generalizing w with
  | nil => rfl
  | cons step rest ih =>
    cases step with
    | perform o =>
      show w.lowered.sight o.lowered :: (w.lowered.after o.lowered).observe _ = _
      rw [sight_lowered, after_lowered, ih]
      rfl
    | ask q =>
      show Sight.told (w.lowered.header.ask q.lowered) :: w.lowered.observe _ = _
      rw [show w.lowered.header = w.header.lowered from rfl, Header.ask_lowered, ih]
      rfl

theorem start_lowered (initial : List (String × List String)) :
    (start initial).lowered = start (initial.map fun e => (headerKey e.1, e.2)) := by
  rw [start, start, Header.ofList_lowered]
  rfl

/-- **The spelling of a name makes no difference**, in the headers that are there at the start and in
    every step of a run. Where two starts and two runs have names with the same keys in the same
    places, and agree in all else, all that is seen is the same but for the spelling of the names
    that faults are about and under which headers are emitted. -/
theorem observe_respelled (initial initial' : List (String × List String))
    (run run' : List HeaderStep)
    (hi : (initial.map fun e => (headerKey e.1, e.2)) = initial'.map fun e => (headerKey e.1, e.2))
    (hr : run.map HeaderStep.lowered = run'.map HeaderStep.lowered) :
    ((start initial).observe run).map Sight.lowered
      = ((start initial').observe run').map Sight.lowered := by
  -- one run on keys follows both
  have hstart : (start initial).lowered = (start initial').lowered := by
    rw [start_lowered, start_lowered, hi]
  rw [← observe_lowered, ← observe_lowered, hstart, hr]

/-- A run in which a header is added to, claimed, set against its claim and written by its setter. -/
def cookieRun (added claimed refused asked : String) : List HeaderStep :=
  [.perform (.add added "b=2"), .ask .items, .perform (.claim claimed),
    .perform (.set refused "c=3"), .perform (.assign 0 ["d=4"]), .ask (.get asked), .ask .items]

/-- Capitals make no difference, and neither does a Kelvin sign in place of a letter. -/
theorem cookie_respelled :
    ((start [("Set-Cookie", ["a=1"])]).observe
        (cookieRun "set-cookie" "Set-Cookie" "SET-COOKIE" "set-Cookie")).map Sight.lowered
      = ((start [("set-coo\u212Aie", ["a=1"])]).observe
        (cookieRun "SET-COOKIE" "set-cookie" "Set-Coo\u212Aie" "SET-coo\u212AIE")).map Sight.lowered :=
  observe_respelled _ _ _ _ (by decide +kernel) (by decide +kernel)

end Writer

end OpenerPolicy
