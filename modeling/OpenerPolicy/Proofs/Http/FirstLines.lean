/-
  File:      OpenerPolicy/Proofs/Http/FirstLines.lean
  Subject:   THE HEADERS OF A REQUEST ARE THE FIRST LINES OF THEIR NAMES.

  A request may name a header in several lines, in any spelling. Interceptors decide on one value for
  each name, so it must not be possible to put another value in its place, or to hide it, by a line that
  comes later. Which line counts is told here by positions alone.

  * `FirstAt` -- the entry for the first line of a name, and the position of that line;
    `firstAt_append_iff`, `firstAt_concat_iff` -- what further lines do to the first lines;
  * `FirstLines` -- the INVARIANT: the entries are those of the first lines, in the order of the lines;
    `FirstLines.concat` -- one more line keeps it, **`firstLines_collapse`** -- so all lines do;
  * **`headers_from_first_lines`** -- what interceptors see of the header lines of any request.
-/
import OpenerPolicy.Http.Application

namespace OpenerPolicy

/-! ## 1. The first line of a name -/

/-- **An entry is that of the line at a position, the first one of its name**: the line has the value
    and, in lowercase, the name of the entry, and no line before it has that name. -/
structure FirstAt (lines : List (String × String)) (position : Nat) (entry : String × String) :
    Prop where
  line : ∃ spelled, lines[position]? = some (spelled, entry.2) ∧ Text.lowercase spelled = entry.1
  first : ∀ earlier line, earlier < position → lines[earlier]? = some line →
    Text.lowercase line.1 ≠ entry.1

section

variable {lines : List (String × String)} {position : Nat} {entry : String × String}

theorem FirstAt.lt_length (h : FirstAt lines position entry) : position < lines.length := by
  obtain ⟨spelled, hline, -⟩ := h.line
  exact (List.getElem?_eq_some_iff.1 hline).1

theorem FirstAt.exists_mem (h : FirstAt lines position entry) :
    ∃ line ∈ lines, Text.lowercase line.1 = entry.1 := by
  obtain ⟨spelled, hline, hname⟩ := h.line
  exact ⟨(spelled, entry.2), List.mem_of_getElem? hline, hname⟩

/-- Two first lines at different positions have different names. -/
theorem FirstAt.name_ne {later : Nat} {entry' : String × String} (h : FirstAt lines position entry)
    (h' : FirstAt lines later entry') (hlt : position < later) : entry.1 ≠ entry'.1 := by
  obtain ⟨spelled, hline, hname⟩ := h.line
  exact hname ▸ h'.first position (spelled, entry.2) hlt hline

/-- **Every line has a first one of its name.** -/
theorem exists_firstAt {line : String × String} (h : line ∈ lines) :
    ∃ position value, FirstAt lines position (Text.lowercase line.1, value) := by
  let isNamed := fun other : String × String => decide (Text.lowercase other.1 = Text.lowercase line.1)
  have hlt : lines.findIdx isNamed < lines.length :=
    List.findIdx_lt_length_of_exists ⟨line, h, decide_eq_true rfl⟩
  refine ⟨lines.findIdx isNamed, lines[lines.findIdx isNamed].2, ?_, fun earlier other hearlier hat => ?_⟩
  · exact ⟨_, List.getElem?_eq_getElem hlt, of_decide_eq_true (List.findIdx_getElem (w := hlt))⟩
  · obtain ⟨-, rfl⟩ := List.getElem?_eq_some_iff.1 hat
    exact of_decide_eq_false (List.not_of_lt_findIdx hearlier)

/-- **Lines that follow make no difference** to the first lines among those that are there. -/
theorem firstAt_append_iff (hlt : position < lines.length) (more : List (String × String)) :
    FirstAt (lines ++ more) position entry ↔ FirstAt lines position entry := by
  have hsame (p : Nat) (hp : p ≤ position) : (lines ++ more)[p]? = lines[p]? :=
    List.getElem?_append_left (Nat.lt_of_le_of_lt hp hlt)
  constructor
  · rintro ⟨hline, hfirst⟩
    rw [hsame position (Nat.le_refl _)] at hline
    refine ⟨hline, fun earlier line hearlier hat => hfirst earlier line hearlier ?_⟩
    rw [hsame earlier (Nat.le_of_lt hearlier), hat]
  · rintro ⟨hline, hfirst⟩
    rw [← hsame position (Nat.le_refl _)] at hline
    refine ⟨hline, fun earlier line hearlier hat => hfirst earlier line hearlier ?_⟩
    rw [← hsame earlier (Nat.le_of_lt hearlier), hat]

/-- The last line is a first one exactly if no line before it has its name. -/
theorem firstAt_length_iff {last : String × String} :
    FirstAt (lines ++ [last]) lines.length entry ↔
      entry = (Text.lowercase last.1, last.2) ∧
        ∀ line ∈ lines, Text.lowercase line.1 ≠ Text.lowercase last.1 := by
  constructor
  · rintro ⟨⟨spelled, hline, hname⟩, hfirst⟩
    rw [List.getElem?_concat_length] at hline
    obtain rfl := Option.some.inj hline
    refine ⟨Prod.ext hname.symm rfl, fun line hmem => ?_⟩
    obtain ⟨earlier, hearlier, hat⟩ := List.getElem_of_mem hmem
    rw [hname]
    refine hfirst earlier line hearlier ?_
    rw [List.getElem?_append_left hearlier, List.getElem?_eq_getElem hearlier, hat]
  · rintro ⟨rfl, hnew⟩
    refine ⟨⟨last.1, List.getElem?_concat_length, rfl⟩, fun earlier line hearlier hat => ?_⟩
    rw [List.getElem?_append_left hearlier] at hat
    exact hnew line (List.mem_of_getElem? hat)

/-- **One more line** leaves the first lines what they are, and is one of them if its name is new. -/
theorem firstAt_concat_iff {last : String × String} :
    FirstAt (lines ++ [last]) position entry ↔
      FirstAt lines position entry ∨
        (position = lines.length ∧ entry = (Text.lowercase last.1, last.2) ∧
          ∀ line ∈ lines, Text.lowercase line.1 ≠ Text.lowercase last.1) := by
  rw [← firstAt_length_iff]
  constructor
  · intro h
    have hlt := h.lt_length
    rw [List.length_append, List.length_singleton] at hlt
    rcases Nat.lt_or_eq_of_le (Nat.le_of_lt_succ hlt) with hlt | rfl
    · exact Or.inl ((firstAt_append_iff hlt [last]).1 h)
    · exact Or.inr ⟨rfl, h⟩
  · rintro (h | ⟨rfl, h⟩)
    · exact (firstAt_append_iff h.lt_length [last]).2 h
    · exact h

end

/-! ## 2. One value for each name -/

/-- **The entries are those of the first lines of their names**, in the order of these lines. -/
structure FirstLines (lines : List (String × String)) (entries : Keyed String String) : Prop where
  found : ∀ name value,
    entries.find? name = some value ↔ ∃ position, FirstAt lines position (name, value)
  order : entries.Pairwise fun e e' =>
    ∃ p q, FirstAt lines p e ∧ FirstAt lines q e' ∧ p < q

namespace FirstLines

variable {lines : List (String × String)} {entries : Keyed String String}

theorem nil : FirstLines [] [] where
  found name value := by
    constructor
    · intro h
      cases h
    · rintro ⟨position, h⟩
      exact absurd h.lt_length (Nat.not_lt_zero position)
  order := List.Pairwise.nil

/-- **No name has two entries**: their lines would be the same. -/
theorem nodup_keys (h : FirstLines lines entries) : entries.keys.Nodup := by
  refine List.pairwise_map.2 (h.order.imp ?_)
  rintro e e' ⟨p, q, hp, hq, hlt⟩
  exact hp.name_ne hq hlt

theorem mem_iff (h : FirstLines lines entries) (e : String × String) :
    e ∈ entries ↔ ∃ position, FirstAt lines position e :=
  (Keyed.find?_eq_some_iff h.nodup_keys e.1 e.2).symm.trans (h.found e.1 e.2)

/-- The names of the entries are those of the lines, in lowercase. -/
theorem mem_keys_iff (h : FirstLines lines entries) (name : String) :
    name ∈ entries.keys ↔ ∃ line ∈ lines, Text.lowercase line.1 = name := by
  rw [← Keyed.find?_isSome_iff, Option.isSome_iff_exists]
  constructor
  · rintro ⟨value, hvalue⟩
    obtain ⟨position, hat⟩ := (h.found name value).1 hvalue
    exact hat.exists_mem
  · rintro ⟨line, hline, rfl⟩
    obtain ⟨position, value, hat⟩ := exists_firstAt hline
    exact ⟨value, (h.found _ value).2 ⟨position, hat⟩⟩

/-- A name has no entry exactly if no line has it. -/
theorem find?_eq_none_iff (h : FirstLines lines entries) (name : String) :
    entries.find? name = none ↔ ∀ line ∈ lines, Text.lowercase line.1 ≠ name := by
  rw [Keyed.find?_eq_none_iff, h.mem_keys_iff]
  simp only [not_exists, not_and, ne_eq]

/-- What a look-up finds after one more line. -/
theorem find?_putFirst_iff (h : FirstLines lines entries) (last : String × String)
    (name value : String) :
    (putFirst entries (Text.lowercase last.1) last.2).find? name = some value ↔
      ∃ position, FirstAt (lines ++ [last]) position (name, value) := by
  have hfirst : (∃ position, FirstAt (lines ++ [last]) position (name, value)) ↔
      entries.find? name = some value ∨
        ((name, value) = (Text.lowercase last.1, last.2) ∧
          entries.find? (Text.lowercase last.1) = none) := by
    simp only [firstAt_concat_iff, exists_or, ← h.found, exists_eq_left, h.find?_eq_none_iff]
  rw [hfirst, find?_putFirst]
  -- an entry that is there stands; where there is none, the new line may give one
  cases hfind : entries.find? name with
  | some there =>
    refine (or_iff_left ?_).symm
    rintro ⟨heq, hnone⟩
    obtain ⟨rfl, -⟩ := Prod.mk.inj heq
    cases hfind.symm.trans hnone
  | none =>
    by_cases hname : Text.lowercase last.1 = name
    · subst hname
      simp [hfind, eq_comm]
    · simp [hname, Ne.symm hname]

/-- **One more line keeps the invariant**: its name gets an entry at the end, unless it has one. -/
theorem concat (h : FirstLines lines entries) (last : String × String) :
    FirstLines (lines ++ [last]) (putFirst entries (Text.lowercase last.1) last.2) := by
  refine ⟨h.find?_putFirst_iff last, ?_⟩
  have hkept {p : Nat} {e : String × String} (hp : FirstAt lines p e) : FirstAt (lines ++ [last]) p e :=
    firstAt_concat_iff.2 (Or.inl hp)
  have horder : entries.Pairwise fun e e' => ∃ p q,
      FirstAt (lines ++ [last]) p e ∧ FirstAt (lines ++ [last]) q e' ∧ p < q := by
    refine h.order.imp ?_
    rintro e e' ⟨p, q, hp, hq, hlt⟩
    exact ⟨p, q, hkept hp, hkept hq, hlt⟩
  unfold putFirst
  split
  · exact horder
  · next hsome =>
    have hnew := (h.find?_eq_none_iff _).1 (Option.not_isSome_iff_eq_none.1 hsome)
    refine List.pairwise_append.2 ⟨horder, List.pairwise_singleton _ _, fun e he e' he' => ?_⟩
    obtain rfl := List.mem_singleton.1 he'
    obtain ⟨p, hp⟩ := (h.mem_iff e).1 he
    exact ⟨p, lines.length, hkept hp, firstAt_length_iff.2 ⟨rfl, hnew⟩, hp.lt_length⟩

/-- Further lines keep it, one after the other. -/
theorem append (h : FirstLines lines entries) (more : List (String × String)) :
    FirstLines (lines ++ more)
      (more.foldl (fun l line => putFirst l (Text.lowercase line.1) line.2) entries) := by
  induction more generalizing lines entries with
  | nil => rwa [List.append_nil]
  | cons line rest ih =>
    rw [List.foldl_cons, List.append_cons]
    exact ih (h.concat line)

end FirstLines

/-- **What all lines come to is made of the first lines.** -/
theorem firstLines_collapse (lines : List (String × String)) : FirstLines lines (collapse lines) :=
  FirstLines.nil.append lines

/-! ## 3. What interceptors see -/

namespace Http

/-- **The headers of a request, as interceptors see them**, whatever its header lines are:

    * a name has an entry exactly if it is, in lowercase, the name of some line;
    * no name has two;
    * the entries are those of the first lines of their names, and no others;
    * they stand in the order of these lines;
    * looking up a name gives the value of the first line of that name, and nothing else. -/
theorem headers_from_first_lines (incoming : Incoming) :
    (∀ name, name ∈ incoming.request.headers.keys ↔
      ∃ line ∈ incoming.lines, Text.lowercase line.1 = name) ∧
    incoming.request.headers.keys.Nodup ∧
    (∀ e, e ∈ incoming.request.headers ↔ ∃ position, FirstAt incoming.lines position e) ∧
    (incoming.request.headers.Pairwise fun e e' =>
      ∃ p q, FirstAt incoming.lines p e ∧ FirstAt incoming.lines q e' ∧ p < q) ∧
    ∀ name value, incoming.request.header? name = some value ↔
      ∃ position, FirstAt incoming.lines position (name, value) := by
  have h : FirstLines incoming.lines incoming.request.headers := firstLines_collapse incoming.lines
  exact ⟨h.mem_keys_iff, h.nodup_keys, h.mem_iff, h.order, h.found⟩

/-- A later line in another spelling neither replaces the first one nor hides it. -/
example :
    (Incoming.mk "GET" "/" [("X-Blocked", "1"), ("Accept", "*/*"), ("x-BLOCKED", "")]).request.headers
      = [("x-blocked", "1"), ("accept", "*/*")] := by decide +kernel

end Http

end OpenerPolicy
