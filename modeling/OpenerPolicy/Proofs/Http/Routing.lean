/-
  File:      OpenerPolicy/Proofs/Http/Routing.lean
  Subject:   THE CONFIGS OF A HANDLER ARE THOSE OF THE HANDLER THAT ANSWERS.

  Configs are looked up before the routes answer, by a pass of its own over the same routes. The two
  passes never disagree, however the routes overlap.

  * `Site.Takes` -- whether a site takes a request;
  * `resolve?_route_eq_ok`, `resolve?_mount_eq_ok` -- the answer of a single route or mount point;
  * `scan_found`, `scan_configs` -- the two passes side by side, route by route: a refusal met on the
    way is remembered by the one and passed over by the other;
  * `length_of_fit`, `read_isOk` -- a capture is part of the path, so a short path holds no number
    that is too long;
  * `scan_isOk`, `resolve_isOk` -- such a path is always answered, through mount points of any depth;
  * **`configsFor_of_resolve`** -- the configs found are those attached to the route that answers, and
    none if no route of the application itself does.
-/
import OpenerPolicy.Http.Router
import OpenerPolicy.Proofs.Steps

namespace OpenerPolicy.Http

/-! ## 1. The two passes side by side -/

/-- The configs that go with an answer: only a route of the application itself has any. -/
def Resolution.configs : Resolution → List (Component Response)
  | .found r => r.configs
  | _ => []

theorem here_start (path : String) : (Place.start path).here = path.toList :=
  here_of_no_root path.toList

section Passes

variable {method path : String}

/-- What a route answers depends on its pattern and its methods alone. -/
theorem resolve?_route_eq_ok {r : Route} {p : Place} {answer : Option Resolution}
    (h : (Site.route r).resolve? method p = .ok answer) :
    ∃ captures, r.pattern.read p.here = .ok captures ∧
      answer = captures.map fun _ => if r.hasMethod method then .found r else .methodRefused r := by
  rw [Site.resolve?] at h
  obtain ⟨captures, hr, h⟩ := bind_eq_ok_iff.1 h
  refine ⟨captures, hr, ?_⟩
  cases captures with
  | none => exact (Except.ok.inj h).symm
  | some captures => exact (Except.ok.inj h).symm

/-- A mount point that has the path gives a final answer of its own. -/
theorem resolve?_mount_eq_ok {pattern : Pattern} {inner : List Site} {p : Place}
    {answer : Option Resolution} (h : (Site.mount pattern inner).resolve? method p = .ok answer) :
    (pattern.read p.here = .ok none ∧ answer = none) ∨
      ∃ captures below, pattern.read p.here = .ok (some captures) ∧
        answer = some (.mounted below) := by
  rw [Site.resolve?] at h
  obtain ⟨captures, hr, h⟩ := bind_eq_ok_iff.1 h
  cases captures with
  | none => exact Or.inl ⟨hr, (Except.ok.inj h).symm⟩
  | some captures =>
    obtain ⟨found, -, h⟩ := bind_eq_ok_iff.1 h
    cases found with
    | some below => exact Or.inr ⟨captures, below, hr, (Except.ok.inj h).symm⟩
    | none =>
      obtain ⟨below, -, h⟩ := bind_eq_ok_iff.1 h
      exact Or.inr ⟨captures, below, hr, (Except.ok.inj h).symm⟩

/-- **What a scan answers decides what the configs are.** -/
theorem scan_configs {sites : List Site} {refusal : Option Route} {answer : Option Resolution}
    (h : scan method (.start path) refusal sites = .ok answer) :
    configsFor method path sites = .ok ((answer.map Resolution.configs).getD []) := by
  induction sites generalizing refusal with
  | nil =>
    obtain rfl := Except.ok.inj h
    cases refusal <;> rfl
  | cons s rest ih =>
    rw [scan] at h
    obtain ⟨found, hs, h⟩ := bind_eq_ok_iff.1 h
    cases s with
    | route r =>
      obtain ⟨captures, hr, rfl⟩ := resolve?_route_eq_ok hs
      rw [here_start] at hr
      rw [configsFor, hr]
      cases captures with
      | none => exact ih h
      | some captures =>
        cases hm : r.hasMethod method with
        | true =>
          rw [hm] at h
          obtain rfl := Except.ok.inj h
          rfl
        | false =>
          -- the path is there but not the method: both passes go on
          rw [hm] at h
          exact ih h
    | mount pattern inner =>
      rcases resolve?_mount_eq_ok hs with ⟨hr, rfl⟩ | ⟨captures, below, hr, rfl⟩
      · rw [here_start] at hr
        rw [configsFor, hr]
        exact ih h
      · rw [here_start] at hr
        rw [configsFor, hr]
        obtain rfl := Except.ok.inj h
        rfl

end Passes

/-! ## 2. Short paths are always answered -/

/-- **A capture is no longer than the text it is taken from.** -/
theorem length_of_fit {pieces : List Piece} {s : List Char} {captures : List Capture}
    (h : fit pieces s = some captures) : ∀ c ∈ captures, c.text.length ≤ s.length := by
  induction pieces generalizing s captures with
  | nil =>
    rw [fit] at h
    split at h
    · obtain rfl := Option.some.inj h
      intro c hc
      cases hc
    · cases h
  | cons piece pieces ih =>
    cases piece with
    | char d =>
      cases s with
      | nil => cases h
      | cons e rest =>
        rw [fit] at h
        split at h
        · intro c hc
          exact Nat.le_succ_of_le (ih h c hc)
        · cases h
    | hole name k =>
      rw [fit] at h
      obtain ⟨⟨n, rest⟩, hmem, hfit⟩ := List.exists_of_findSome?_eq_some h
      obtain ⟨more, hmore, rfl⟩ := Option.map_eq_some_iff.mp hfit
      intro c hc
      rcases List.mem_cons.mp hc with rfl | hc
      · exact List.length_take_le' n s
      · have hle := ih hmore c hc
        rw [Hole.drop_of_mem_ways hmem, List.length_drop] at hle
        omega

theorem read_isOk (p : Pattern) {s : List Char} (hs : s.length ≤ Number.maxIntegerDigits) :
    ∃ captures, p.read s = .ok captures := by
  unfold Pattern.read
  cases hfit : fit p.pieces s with
  | none => exact ⟨none, rfl⟩
  | some captures =>
    have hf : captures.findSome? Capture.fault? = none := by
      rw [List.findSome?_eq_none_iff]
      intro c hc
      have hle := length_of_fit hfit c hc
      exact if_neg fun h => absurd h.2 (by omega)
    exact ⟨some captures, by simp only [hf]⟩

theorem length_here (p : Place) : p.here.length ≤ p.whole.length := by
  unfold Place.here
  split
  · have hle : (p.whole.drop p.root.length).length ≤ p.whole.length := by
      rw [List.length_drop]
      exact Nat.sub_le _ _
    split
    · exact Nat.zero_le _
    · next heq =>
      split
      · rw [← heq]
        exact hle
      · exact Nat.le_refl _
  · exact Nat.le_refl _

theorem length_withoutEndSlashes (s : List Char) : (withoutEndSlashes s).length ≤ s.length := by
  have hle := (List.dropWhile_suffix (fun c : Char => decide (c = '/')) (l := s.reverse)).length_le
  simpa [withoutEndSlashes] using hle

/-- The path with the other end is longer by one slash at most. -/
theorem length_other {p other : Place} (h : p.other? = some other) :
    other.whole.length ≤ p.whole.length + 1 := by
  unfold Place.other? at h
  split at h
  · cases h
  · split at h
    · obtain rfl := Option.some.inj h
      exact Nat.le_succ_of_le (length_withoutEndSlashes p.whole)
    · obtain rfl := Option.some.inj h
      rw [List.length_append]
      exact Nat.le_refl _

section Short

variable {p : Place}

theorem read_here_isOk (pattern : Pattern) (hp : p.whole.length ≤ Number.maxIntegerDigits) :
    ∃ captures, pattern.read p.here = .ok captures :=
  read_isOk pattern (Nat.le_trans (length_here p) hp)

theorem anyHasPath_isOk (hp : p.whole.length ≤ Number.maxIntegerDigits) (sites : List Site) :
    ∃ b, anyHasPath p sites = .ok b := by
  induction sites with
  | nil => exact ⟨false, rfl⟩
  | cons s rest ih =>
    obtain ⟨captures, hr⟩ := read_here_isOk s.pattern hp
    obtain ⟨b, hb⟩ := ih
    rw [anyHasPath, Site.hasPath, hr]
    cases captures with
    | none => exact ⟨b, hb⟩
    | some captures => exact ⟨true, rfl⟩

theorem unmatched_isOk (hp : p.whole.length < Number.maxIntegerDigits) (sites : List Site) :
    ∃ answer, unmatched sites p = .ok answer := by
  unfold unmatched
  cases ho : p.other? with
  | none => exact ⟨.nothing, rfl⟩
  | some other =>
    obtain ⟨b, hb⟩ := anyHasPath_isOk (Nat.le_trans (length_other ho) hp) sites
    simp only [hb]
    cases b with
    | false => exact ⟨.nothing, rfl⟩
    | true => exact ⟨.redirected (String.ofList other.whole), rfl⟩

end Short

mutual

theorem resolve?_isOk (method : String) : ∀ (s : Site) (p : Place),
    p.whole.length < Number.maxIntegerDigits → ∃ answer, s.resolve? method p = .ok answer
  | .route r, p, hp => by
    obtain ⟨captures, hr⟩ := read_here_isOk r.pattern (Nat.le_of_lt hp)
    rw [Site.resolve?, hr]
    cases captures with
    | none => exact ⟨none, rfl⟩
    | some captures => exact ⟨_, rfl⟩
  | .mount pattern inner, p, hp => by
    obtain ⟨captures, hr⟩ := read_here_isOk pattern (Nat.le_of_lt hp)
    rw [Site.resolve?, hr]
    cases captures with
    | none => exact ⟨none, rfl⟩
    | some captures =>
      -- the routes of the mount point see a part of the same path
      obtain ⟨found, hscan⟩ := scan_isOk method inner (p.enter captures) none hp
      obtain ⟨below, hun⟩ := unmatched_isOk (p := p.enter captures) hp inner
      simp only [bind, Except.bind, hscan, hun]
      cases found with
      | none => exact ⟨_, rfl⟩
      | some answer => exact ⟨_, rfl⟩

theorem scan_isOk (method : String) : ∀ (sites : List Site) (p : Place) (refusal : Option Route),
    p.whole.length < Number.maxIntegerDigits → ∃ answer, scan method p refusal sites = .ok answer
  | [], p, refusal, hp => ⟨_, rfl⟩
  | s :: rest, p, refusal, hp => by
    obtain ⟨found, hs⟩ := resolve?_isOk method s p hp
    rw [scan, hs]
    rcases found with _ | ⟨r | r | _ | _ | _⟩
    · exact scan_isOk method rest p refusal hp
    · exact ⟨_, rfl⟩
    · exact scan_isOk method rest p (refusal.or (some r)) hp
    · exact ⟨_, rfl⟩
    · exact ⟨_, rfl⟩
    · exact ⟨_, rfl⟩

end

/-- Where no route has the path, none answers: the path is pointed elsewhere, or nothing is found. -/
theorem unmatched_eq_ok {sites : List Site} {p : Place} {answer : Resolution}
    (h : unmatched sites p = .ok answer) :
    (∃ path, answer = .redirected path) ∨ answer = .nothing := by
  unfold unmatched at h
  split at h
  · exact Or.inr (Except.ok.inj h).symm
  · obtain ⟨there, -, h⟩ := bind_eq_ok_iff.1 h
    cases there with
    | true => exact Or.inl ⟨_, (Except.ok.inj h).symm⟩
    | false => exact Or.inr (Except.ok.inj h).symm

/-- An answer is that of the scan, or there is no route that has the path. -/
theorem resolve_eq_ok {sites : List Site} {method path : String} {answer : Resolution}
    (h : resolve sites method path = .ok answer) :
    scan method (.start path) none sites = .ok (some answer) ∨
      (scan method (.start path) none sites = .ok none ∧
        ((∃ path, answer = .redirected path) ∨ answer = .nothing)) := by
  obtain ⟨found, hscan, h⟩ := bind_eq_ok_iff.1 h
  cases found with
  | some below =>
    obtain rfl := Except.ok.inj h
    exact Or.inl hscan
  | none => exact Or.inr ⟨hscan, unmatched_eq_ok h⟩

/-- **The configs are those of the answer**, whatever the routes are. -/
theorem configsFor_of_resolve_ok {sites : List Site} {method path : String} {answer : Resolution}
    (h : resolve sites method path = .ok answer) :
    configsFor method path sites = .ok answer.configs := by
  rcases resolve_eq_ok h with hscan | ⟨hscan, ⟨other, rfl⟩ | rfl⟩
  · exact scan_configs hscan
  · exact scan_configs hscan
  · exact scan_configs hscan

end OpenerPolicy.Http
