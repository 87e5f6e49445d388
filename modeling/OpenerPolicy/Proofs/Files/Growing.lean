/-
  File:      OpenerPolicy/Proofs/Files/Growing.lean
  Subject:   WHICH DIRECTORIES ARE MADE WHEN THOSE ABOVE A PATH ARE MISSING.

  The tree has no links, so the locations that a path passes can be told from its parts alone: a name
  leads down, two dots lead up. Making directories puts one at some of these locations, and only where
  nothing is. Everything else in the tree stays, whether all of them can be made or not.

  * `follow`, `walk_eq_follow` -- where parts lead, and that a path which can be followed leads there;
  * `OnWay` -- the locations that are passed on the way;
  * `Grown` -- a later tree holds what an earlier one held, and directories at free locations of a given
    kind; `Grown.trans`, `Grown.mono`;
  * **`grown_makeDirs`** -- making directories makes nothing but missing ones on the way.
-/
import OpenerPolicy.Proofs.Files.Writing

namespace OpenerPolicy.Files.Tree

variable {t t' t'' : Tree} {p : Path}

/-! ## 1. Where parts lead -/

/-- **Where parts lead from a location**, whatever the tree holds: a name leads down, two dots up. -/
def follow (here : Location) (parts : List String) : Location :=
  parts.foldl (fun l part => if part = ".." then l.dropLast else l ++ [part]) here

/-- A path that can be followed leads where its parts lead. -/
theorem walk_eq_follow {here l : Location} {parts : List String} (h : t.walk here parts = .ok l) :
    l = follow here parts := by
  induction parts generalizing here with
  | nil => exact (Except.ok.inj h).symm
  | cons part rest ih =>
    rw [walk] at h
    show l = follow (if part = ".." then here.dropLast else here ++ [part]) rest
    split at h
    · cases h
    · cases h
    · by_cases hdots : part = ".."
      · rw [if_pos hdots] at h ⊢
        exact ih h
      · rw [if_neg hdots] at h ⊢
        split at h
        · cases h
        split at h
        · next hlast =>
          rw [List.isEmpty_iff.1 hlast]
          exact (Except.ok.inj h).symm
        · exact ih h

/-- The same for the location of a path. -/
theorem locate_eq_follow {l : Location} (h : t.locate p = .ok l) :
    l = follow (t.origin p) p.parts := by
  unfold locate at h
  split at h
  · cases h
  split at h
  · cases h
  · exact walk_eq_follow h

/-- **A location that is passed on the way**, the start and the end included. -/
def OnWay (here : Location) (parts : List String) (l : Location) : Prop :=
  ∃ k, l = follow here (parts.take k)

theorem onWay_end (here : Location) (parts : List String) : OnWay here parts (follow here parts) :=
  ⟨parts.length, by rw [List.take_length]⟩

/-- What is passed on the way to a directory is passed on the way to what is in it. -/
theorem OnWay.of_parent {here l : Location} (h : OnWay here p.parent.parts l) :
    OnWay here p.parts l := by
  obtain ⟨k, rfl⟩ := h
  refine ⟨min k (p.parts.length - 1), ?_⟩
  rw [Path.parent, List.dropLast_eq_take, List.take_take]

/-! ## 2. Directories at free locations -/

/-- **A later tree holds what an earlier one held**, and directories at some locations that were free
    then, all of a given kind. -/
structure Grown (t t' : Tree) (place : Location → Prop) : Prop where
  working : t'.working = t.working
  node : ∀ l, t'.find? l = t.find? l ∨ place l ∧ t.find? l = none ∧ t'.find? l = some .dir

variable {place place' : Location → Prop}

theorem Grown.refl (t : Tree) (place : Location → Prop) : t.Grown t place :=
  ⟨rfl, fun _ => Or.inl rfl⟩

theorem Grown.trans (h : t.Grown t' place) (h' : t'.Grown t'' place) : t.Grown t'' place := by
  refine ⟨h'.working.trans h.working, fun l => ?_⟩
  rcases h.node l with hsame | ⟨hplace, hfree, hmade⟩
  · rw [← hsame]
    exact h'.node l
  · rcases h'.node l with hsame' | ⟨-, hfree', -⟩
    · exact Or.inr ⟨hplace, hfree, hsame'.trans hmade⟩
    · rw [hmade] at hfree'
      cases hfree'

theorem Grown.mono (h : t.Grown t' place) (hplace : ∀ l, place l → place' l) : t.Grown t' place' :=
  ⟨h.working, fun l => (h.node l).imp_right fun hmade => ⟨hplace l hmade.1, hmade.2⟩⟩

/-- What is there stays. -/
theorem Grown.find?_of_some (h : t.Grown t' place) {l : Location} {n : Node}
    (hl : t.find? l = some n) : t'.find? l = some n := by
  rcases h.node l with hsame | ⟨-, hfree, -⟩
  · exact hsame.trans hl
  · rw [hl] at hfree
    cases hfree

/-- No file is made. -/
theorem Grown.find?_eq_file_iff (h : t.Grown t' place) (l : Location) (content : List UInt8) :
    t'.find? l = some (.file content) ↔ t.find? l = some (.file content) := by
  refine ⟨fun hl => ?_, h.find?_of_some⟩
  rcases h.node l with hsame | ⟨-, -, hmade⟩
  · exact hsame.symm.trans hl
  · rw [hmade] at hl
    cases hl

theorem grown_put_dir {l : Location} (hfree : t.find? l = none) (hplace : place l) :
    t.Grown (t.put l .dir) place := by
  have hne : l ≠ [] := by
    rintro rfl
    cases hfree
  refine ⟨rfl, fun l' => ?_⟩
  rw [find?_put t l l' _ hne]
  split
  · next heq => exact Or.inr ⟨heq ▸ hplace, heq ▸ hfree, rfl⟩
  · exact Or.inl rfl

/-! ## 3. Making directories -/

theorem grown_makeDir (h : t.makeDir p = .ok t') : t.Grown t' (OnWay (t.origin p) p.parts) := by
  obtain ⟨l, hlocate, hmade⟩ := bind_eq_ok_iff.1 h
  cases hfind : t.find? l with
  | some n =>
    rw [hfind] at hmade
    cases hmade
  | none =>
    rw [hfind] at hmade
    obtain rfl := Except.ok.inj hmade
    obtain rfl := locate_eq_follow hlocate
    exact grown_put_dir hfind (onWay_end _ _)

theorem grown_settle (t : Tree) (p : Path) :
    t.Grown (t.settle p (t.makeDir p)).1 (OnWay (t.origin p) p.parts) := by
  cases hmade : t.makeDir p with
  | ok t' => exact grown_makeDir hmade
  | error o => cases o <;> exact Grown.refl t _

theorem origin_of_working (h : t'.working = t.working) (p : Path) : t'.origin p = t.origin p := by
  rw [origin, origin, h]

theorem grown_makeDirsFrom (t : Tree) (p : Path) (depth : Nat) :
    t.Grown (t.makeDirsFrom p depth).1 (OnWay (t.origin p) p.parts) := by
  induction depth generalizing p with
  | zero => exact grown_settle t p
  | succ depth ih =>
    rw [makeDirsFrom]
    split
    · have habove := (ih p.parent).mono fun _ => OnWay.of_parent
      split
      · next t' f hmade =>
        rw [hmade] at habove
        exact habove
      · next t' hmade =>
        rw [hmade] at habove
        have hlast := grown_settle t' p
        rw [origin_of_working habove.working] at hlast
        exact habove.trans hlast
    · exact grown_settle t p

/-- **Making directories** makes nothing but missing ones on the way. -/
theorem grown_makeDirs (t : Tree) (p : Path) :
    t.Grown (t.makeDirs p).1 (OnWay (t.origin p) p.parts) :=
  grown_makeDirsFrom t p p.parts.length

end OpenerPolicy.Files.Tree
