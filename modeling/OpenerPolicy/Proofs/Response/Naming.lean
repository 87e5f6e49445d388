/-
  File:      OpenerPolicy/Proofs/Response/Naming.lean
  Subject:   UNDER WHICH SPELLING A HEADER IS EMITTED.

  A header can be mentioned under many spellings and is emitted under one of them. Which one it is can
  be told from its story, that is from what has been done to it since the start: values that are given
  to it, the occasions when it was set anew, and its removals.

  * `Mention`, `Operation.mentions` -- what an operation says of a header;
    `Writer.story`, `storyOf` -- the story of a header in a run, and from the start on;
  * `firstGiven`, `lastSet` -- two spellings of a story: the first one since the header was last
    removed, and the last one under which it was set anew;
  * `Writer.Titled` -- the INVARIANT of claimed headers: one setter for each, and whatever stands under
    its key has the spelling of the claim; `Titled.effect`;
  * `name_effect`, `name_afterAll` -- what a step and a run do to the spelling of a header;
  * **`emitted_names`** -- a header is emitted under the spelling it was last set under, and under the
    spelling first given if it was not set anew since; so the first spelling is kept exactly if it was
    never set under another one, and `renamed_by_set` shows that it need not be kept.
-/
import OpenerPolicy.Proofs.Response.Reading

namespace OpenerPolicy

/-! ## 1. The story of a header -/

/-- What is said of a header. -/
inductive Mention where
  /-- It is set anew, under this spelling. -/
  | set (name : String)
  /-- It is given values, under this spelling if it is not there. -/
  | given (name : String)
  | removed
  deriving DecidableEq, Repr

namespace Mention

/-- The spelling that came first, after one more mention. -/
def first (held : Option String) : Mention → Option String
  | .set name => some (held.getD name)
  | .given name => some (held.getD name)
  | .removed => none

/-- The spelling that was set last, after one more mention. -/
def latest (held : Option String) : Mention → Option String
  | .set name => some name
  | .given _ => held
  | .removed => none

/-- The spelling that a header has, after one more mention. -/
def spelled (held : Option String) : Mention → Option String
  | .set name => some name
  | .given name => some (held.getD name)
  | .removed => none

/-- A mention of the header under a key, if it is the one under another. -/
def about (m : Mention) (subject key : String) : List Mention := if subject = key then [m] else []

end Mention

/-- **The spelling under which a header was first given**, since it was last removed. -/
def firstGiven (story : List Mention) : Option String := story.foldl Mention.first none

/-- **The spelling under which a header was last set anew**, since it was last removed. -/
def lastSet (story : List Mention) : Option String := story.foldl Mention.latest none

/-- What an operation that succeeds says of the header under a key. The setter of a claim gives values
    under the spelling of the claim; without values it removes the header. -/
def Operation.mentions (setters : List Setter) (key : String) : Operation → List Mention
  | .claim name => Mention.removed.about (headerKey name) key
  | .assign index values =>
    match setters[index]? with
    | some s => (if values.isEmpty then Mention.removed else .given s.name).about s.key key
    | none => []
  | .set name _ => (Mention.set name).about (headerKey name) key
  | .add name _ => (Mention.given name).about (headerKey name) key
  | .delete name => Mention.removed.about (headerKey name) key
  | .write _ _ => []

theorem Operation.mentions_assign {setters : List Setter} {index : Nat} {s : Setter}
    (hs : setters[index]? = some s) (values : List String) (key : String) :
    (Operation.assign index values).mentions setters key
      = (if values.isEmpty then Mention.removed else .given s.name).about s.key key := by
  rw [mentions, hs]

namespace Writer

/-- What an operation says of the header under a key; one that fails says nothing. -/
def mentions (w : Writer) (key : String) (o : Operation) : List Mention :=
  match w.perform o with
  | .ok _ => o.mentions w.setters key
  | .error _ => []

/-- **The story of the header under a key in a run.** -/
def story (w : Writer) (key : String) : List Operation → List Mention
  | [] => []
  | o :: rest => w.mentions key o ++ (w.after o).story key rest

end Writer

/-- What the headers that are there at the start say of the header under a key. -/
def startStory (initial : List (String × List String)) (key : String) : List Mention :=
  initial.flatMap fun e => (Mention.set e.1).about (headerKey e.1) key

theorem startStory_cons (e : String × List String) (rest : List (String × List String))
    (key : String) :
    startStory (e :: rest) key = (Mention.set e.1).about (headerKey e.1) key ++ startStory rest key :=
  List.flatMap_cons

/-- **The story of the header under a key from the start on.** -/
def storyOf (initial : List (String × List String)) (ops : List Operation) (key : String) :
    List Mention :=
  startStory initial key ++ (Writer.start initial).story key ops

/-! ## 2. The spellings of a story -/

/-- The spelling that a header has is the one it was last set under, or else the first one. -/
theorem foldl_spelled (story : List Mention) (held latest : Option String)
    (h : latest.isSome → held.isSome) :
    story.foldl Mention.spelled (latest.or held)
        = (story.foldl Mention.latest latest).or (story.foldl Mention.first held)
      ∧ ((story.foldl Mention.latest latest).isSome → (story.foldl Mention.first held).isSome) := by
  induction story generalizing held latest with
  | nil => exact ⟨rfl, h⟩
  | cons m rest ih =>
    cases m with
    | set name => exact ih (some (held.getD name)) (some name) fun _ => rfl
    | given name =>
      have hstep : Mention.spelled (latest.or held) (.given name)
          = latest.or (some (held.getD name)) := by
        cases latest <;> rfl
      rw [List.foldl_cons, hstep]
      exact ih (some (held.getD name)) latest fun _ => rfl
    | removed => exact ih none none id

/-- A header that is there was given first under some spelling, and has that one or the one it was
    last set under. -/
theorem firstGiven_of_spelled {story : List Mention} {name : String}
    (h : story.foldl Mention.spelled none = some name) :
    ∃ first, firstGiven story = some first ∧ (lastSet story).getD first = name := by
  have hfold := foldl_spelled story none none id
  rw [Option.or_none, h] at hfold
  obtain ⟨heq, hfirst⟩ := hfold
  cases hlast : lastSet story with
  | some last =>
    have hlast' : story.foldl Mention.latest none = some last := hlast
    rw [hlast'] at heq hfirst
    obtain ⟨first, hsome⟩ := Option.isSome_iff_exists.1 (hfirst rfl)
    exact ⟨first, hsome, (Option.some.inj heq).symm⟩
  | none =>
    have hlast' : story.foldl Mention.latest none = none := hlast
    rw [hlast', Option.none_or] at heq
    exact ⟨name, heq.symm, rfl⟩

/-! ## 3. The spelling of an entry -/

namespace Header

/-- The spelling of the header under a key, whether it has values or not. -/
def name? (h : Header) (key : String) : Option String := (h.entries.find? key).map Entry.name

theorem name?_put (h : Header) (subject key : String) (e : Entry) (claims : List String) :
    name? ⟨h.entries.put subject e, claims⟩ key
      = if subject = key then some e.name else h.name? key := by
  by_cases hk : subject = key <;> simp [name?, hk]

theorem name?_remove (h : Header) (subject key : String) (claims : List String) :
    name? ⟨h.entries.remove subject, claims⟩ key
      = if subject = key then none else h.name? key := by
  by_cases hk : subject = key <;> simp [name?, hk]

/-- Values that are given by a setter stand under the spelling of its claim. -/
theorem name?_assign (h : Header) (s : Setter) (values : List String) (key : String) :
    (h.assign s values).name? key
      = if s.key = key then (if values.isEmpty then none else some s.name) else h.name? key := by
  unfold assign
  split
  · rw [name?_remove]
  · rw [name?_put]

/-- A header that is added to keeps the spelling it has. -/
theorem name_added (h : Header) (name value : String) :
    (h.added name value).name = (h.name? (headerKey name)).getD name := by
  rw [added, name?]
  cases h.entries.find? (headerKey name) <;> rfl

/-- At the start a header has the spelling that came last. -/
theorem name?_ofList (initial : List (String × List String)) (key : String) :
    (ofList initial).name? key = (startStory initial key).foldl Mention.spelled none := by
  have go : ∀ (initial : List (String × List String)) (entries : Keyed String Entry),
      name? ⟨(initial.map fun e => (headerKey e.1, (⟨e.1, e.2⟩ : Entry))).foldl
          (fun l e => l.put e.1 e.2) entries, []⟩ key
        = (startStory initial key).foldl Mention.spelled (name? ⟨entries, []⟩ key) := by
    intro initial
    induction initial with
    | nil => exact fun _ => rfl
    | cons e rest ih =>
      intro entries
      have hput := name?_put ⟨entries, []⟩ (headerKey e.1) key ⟨e.1, e.2⟩ []
      rw [List.map_cons, List.foldl_cons, ih, hput, startStory_cons, List.foldl_append, Mention.about]
      by_cases hk : headerKey e.1 = key
      · rw [if_pos hk, if_pos hk]
        rfl
      · rw [if_neg hk, if_neg hk]
        rfl
  exact go initial []

end Header

/-! ## 4. Claimed headers -/

/-- **Claimed headers have the spelling of their claims.** -/
structure Writer.Titled (w : Writer) : Prop where
  /-- No two setters are for one header. -/
  alone : ∀ s ∈ w.setters, ∀ s' ∈ w.setters, s.key = s'.key → s = s'
  spelled : ∀ s ∈ w.setters, ∀ name, w.header.name? s.key = some name → name = s.name

namespace Writer

theorem titled_start (initial : List (String × List String)) : (start initial).Titled where
  alone _ hs := absurd hs List.not_mem_nil
  spelled _ hs := absurd hs List.not_mem_nil

/-- A change of a header that is not claimed leaves claimed ones alone. -/
theorem Titled.of_open {w : Writer} (ht : w.Titled) (hw : w.Sound) {header : Header} {subject : String}
    (hc : subject ∉ w.header.claims)
    (h : ∀ key, subject ≠ key → header.name? key = w.header.name? key) :
    Titled { w with header } where
  alone := ht.alone
  spelled s hs name hname := by
    have hne : subject ≠ s.key := fun heq => hc (heq ▸ hw.settersClaimed s hs)
    exact ht.spelled s hs name ((h s.key hne).symm.trans hname)

/-- A claim drops what stands under its key, and no other setter is for it. -/
theorem Titled.of_claim {w : Writer} (ht : w.Titled) {name : String}
    (hother : ∀ s ∈ w.setters, headerKey name ≠ s.key) (claims : List String) :
    Titled { w with
      header := ⟨w.header.entries.remove (headerKey name), claims⟩
      setters := w.setters ++ [⟨headerKey name, name⟩] } := by
  refine ⟨fun s hs s' hs' heq => ?_, fun s hs name' hname => ?_⟩
  · rcases List.mem_append.1 hs with hold | hnew
    · rcases List.mem_append.1 hs' with hold' | hnew'
      · exact ht.alone s hold s' hold' heq
      · obtain rfl := List.mem_singleton.1 hnew'
        exact absurd heq.symm (hother s hold)
    · obtain rfl := List.mem_singleton.1 hnew
      rcases List.mem_append.1 hs' with hold' | hnew'
      · exact absurd heq (hother s' hold')
      · exact (List.mem_singleton.1 hnew').symm
  · rw [Header.name?_remove] at hname
    rcases List.mem_append.1 hs with hold | hnew
    · rw [if_neg (hother s hold)] at hname
      exact ht.spelled s hold name' hname
    · obtain rfl := List.mem_singleton.1 hnew
      rw [if_pos rfl] at hname
      cases hname

/-- A setter writes under the spelling of its own claim. -/
theorem Titled.of_assign {w : Writer} (ht : w.Titled) {s : Setter} (hs : s ∈ w.setters)
    (values : List String) : Titled { w with header := w.header.assign s values } where
  alone := ht.alone
  spelled s' hs' name hname := by
    rw [Header.name?_assign] at hname
    split at hname
    · next heq =>
      obtain rfl := ht.alone s hs s' hs' heq
      split at hname
      · cases hname
      · exact (Option.some.inj hname).symm
    · exact ht.spelled s' hs' name hname

/-- **Every rule keeps the spelling of claims.** -/
theorem Titled.effect {w w' : Writer} {o : Operation} (ht : w.Titled) (hw : w.Sound)
    (h : w.Effect o w') : w'.Titled := by
  cases h with
  | claim name hc =>
    exact ht.of_claim (fun s hs heq => hc (heq ▸ hw.settersClaimed s hs)) _
  | assign index values s hs => exact ht.of_assign (List.mem_of_getElem? hs) values
  | idle => exact ht
  | set name value hc =>
    exact ht.of_open hw hc fun key hne => by rw [Header.name?_put, if_neg hne]
  | add name value hc =>
    exact ht.of_open hw hc fun key hne => by rw [Header.name?_put, if_neg hne]
  | delete name hc =>
    exact ht.of_open hw hc fun key hne => by rw [Header.name?_remove, if_neg hne]
  | write body status hw => exact ⟨ht.alone, ht.spelled⟩

/-! ## 5. Steps and runs -/

/-- **What a step does to the spelling of a header** is what it says of it. -/
theorem name_effect {w w' : Writer} {o : Operation} (ht : w.Titled) (h : w.Effect o w') (key : String) :
    w'.header.name? key = (o.mentions w.setters key).foldl Mention.spelled (w.header.name? key) := by
  cases h with
  | claim name hc =>
    rw [Header.name?_remove, Operation.mentions, Mention.about]
    split <;> rfl
  | assign index values s hs =>
    rw [Operation.mentions_assign hs, Header.name?_assign, Mention.about]
    split
    · next heq =>
      by_cases hv : values.isEmpty = true
      · rw [if_pos hv, if_pos hv]
        rfl
      · -- the header is not there, or it has the spelling of the claim
        rw [if_neg hv, if_neg hv, ← heq]
        show some s.name = some ((w.header.name? s.key).getD s.name)
        cases hname : w.header.name? s.key with
        | none => rfl
        | some name =>
          rw [ht.spelled s (List.mem_of_getElem? hs) name hname]
          rfl
    · rfl
  | idle index values hs =>
    rw [Operation.mentions, hs]
    rfl
  | set name value hc =>
    rw [Header.name?_put, Operation.mentions, Mention.about]
    split <;> rfl
  | add name value hc =>
    rw [Header.name?_put, Header.name_added, Operation.mentions, Mention.about]
    split
    · next heq =>
      subst heq
      rfl
    · rfl
  | delete name hc =>
    rw [Header.name?_remove, Operation.mentions, Mention.about]
    split <;> rfl
  | write body status hw => rfl

/-- **A header has the spelling that its story tells**, after every run. -/
theorem name_afterAll {w : Writer} (hw : w.Sound) (ht : w.Titled) (ops : List Operation)
    (key : String) :
    (w.afterAll ops).header.name? key
      = (w.story key ops).foldl Mention.spelled (w.header.name? key) := by
  induction ops generalizing w with
  | nil => rfl
  | cons o rest ih =>
    rw [afterAll_cons, story, List.foldl_append, mentions]
    cases hp : w.perform o with
    | ok w' =>
      have he := (perform_eq_ok_iff w w' o).1 hp
      rw [he.after_eq, ih (hw.effect he) (ht.effect hw he), name_effect ht he]
    | error f =>
      rw [after_of_error hp]
      exact ih hw ht

/-- What is emitted has the spelling that its story tells. -/
theorem name_of_mem_items (initial : List (String × List String)) (ops : List Operation) {e : Entry}
    (he : e ∈ ((start initial).afterAll ops).header.items) :
    (storyOf initial ops (headerKey e.name)).foldl Mention.spelled none = some e.name := by
  have hs := (sound_afterAll (sound_start initial) ops).header
  have hstory := name_afterAll (sound_start initial) (titled_start initial) ops (headerKey e.name)
  have hstart := Header.name?_ofList initial (headerKey e.name)
  rw [Header.name?, hs.find?_of_mem_items he, start, hstart] at hstory
  rw [storyOf, List.foldl_append]
  exact hstory.symm

/-! ## 6. The names that are emitted -/

/-- **Under which spelling a header is emitted**, whatever was there at the start and in whatever order
    headers are claimed, set, added to, deleted and written by setters: under the one it was last set
    under, by a direct change or at the start, and if it was not set since it was last removed, under
    the one that was given first. So it is emitted under the spelling first given exactly if it was
    last set under that one; neither an added value nor the setter of a claim ever changes it. -/
theorem emitted_names (initial : List (String × List String)) (ops : List Operation) (e : Entry)
    (he : e ∈ ((start initial).afterAll ops).header.items) :
    let story := storyOf initial ops (headerKey e.name)
    ∃ first, firstGiven story = some first ∧ e.name = (lastSet story).getD first ∧
      (e.name = first ↔ ∀ name, lastSet story = some name → name = first) := by
  intro story
  obtain ⟨first, hfirst, hname⟩ := firstGiven_of_spelled (name_of_mem_items initial ops he)
  refine ⟨first, hfirst, hname.symm, ?_⟩
  rw [← hname]
  show (lastSet story).getD first = first ↔ _
  cases lastSet story with
  | none => exact iff_of_true rfl fun name hnone => by cases hnone
  | some last => exact ⟨fun heq name hsome => Option.some.inj hsome ▸ heq, fun h => h last rfl⟩

/-- What is done to a header that is there at the start, is removed, and is given values again. -/
def traceRun : List Operation :=
  [.add "x-trace" "b", .delete "X-TRACE", .add "x-Trace" "c", .add "X-Trace" "d"]

/-- A header that comes back is emitted under the spelling it comes back with. -/
theorem trace_emitted_as_readded :
    let e : Entry := ⟨"x-Trace", ["c", "d"]⟩
    let story := storyOf [("X-Trace", ["a"])] traceRun (headerKey e.name)
    e ∈ ((start [("X-Trace", ["a"])]).afterAll traceRun).header.items ∧
      ∃ first, firstGiven story = some first ∧ e.name = (lastSet story).getD first ∧
        (e.name = first ↔ ∀ name, lastSet story = some name → name = first) := by
  intro e story
  have he : e ∈ ((start [("X-Trace", ["a"])]).afterAll traceRun).header.items := by decide +kernel
  exact ⟨he, emitted_names [("X-Trace", ["a"])] traceRun e he⟩

/-- **A header that is set while it is there loses the spelling it was first given.** -/
theorem renamed_by_set :
    ∃ e ∈ ((start []).afterAll [.set "X-First" "1", .set "x-first" "2"]).header.items,
      firstGiven (storyOf [] [.set "X-First" "1", .set "x-first" "2"] (headerKey e.name))
          = some "X-First"
        ∧ e.name ≠ "X-First" := by
  refine ⟨⟨"x-first", ["2"]⟩, ?_, ?_, ?_⟩
  · decide +kernel
  · decide +kernel
  · decide +kernel

end Writer

end OpenerPolicy
