/-
  File:      OpenerPolicy/Proofs/Files/Writing.lean
  Subject:   WHAT IS WRITTEN TO A FILE IS READ FROM IT.

  A path is followed through directories only, and a file never takes the place of one. So writing a
  file changes no path that can be followed, and the same path leads to the new content, whatever
  else the tree holds and however the path winds.

  * `walk_put`, `locate_put` -- paths that can be followed lead where they led before;
  * `write_eq_ok` -- what a successful write does;
  * **`lookup_of_write`** -- the path then leads to the content; `read_of_write`, `holds_of_write`.
-/
import OpenerPolicy.Files.Tree
import OpenerPolicy.Proofs.Steps

namespace OpenerPolicy.Files.Tree

variable {t t' : Tree} {l : Location} {p : Path} {content : List UInt8}

/-- The root is no place for a file. -/
theorem ne_nil_of_not_dir (h : t.find? l ≠ some .dir) : l ≠ [] := by
  rintro rfl
  exact h rfl

/-- **A path that can be followed leads where it led before**, if something is put where no directory
    was. -/
theorem walk_put (h : t.find? l ≠ some .dir) (n : Node) {here target : Location}
    {parts : List String} (hwalk : t.walk here parts = .ok target) :
    (t.put l n).walk here parts = .ok target := by
  induction parts generalizing here with
  | nil => exact hwalk
  | cons part rest ih =>
    rw [walk] at hwalk ⊢
    cases hfind : t.find? here with
    | none =>
      rw [hfind] at hwalk
      cases hwalk
    | some node =>
      rw [hfind] at hwalk
      cases node with
      | file content => cases hwalk
      | dir =>
        -- a directory is passed, so it is not the place that changed
        have hne : l ≠ here := by
          rintro rfl
          exact h hfind
        have hsame : (t.put l n).find? here = some .dir := by
          rw [find?_put t l here n (ne_nil_of_not_dir h), if_neg hne, hfind]
        rw [hsame]
        simp only at hwalk ⊢
        by_cases hdots : part = ".."
        · rw [if_pos hdots] at hwalk ⊢
          exact ih hwalk
        rw [if_neg hdots] at hwalk ⊢
        by_cases hlong : maxNameBytes < part.utf8ByteSize
        · rw [if_pos hlong] at hwalk
          cases hwalk
        rw [if_neg hlong] at hwalk ⊢
        by_cases hlast : rest.isEmpty = true
        · rw [if_pos hlast] at hwalk ⊢
          exact hwalk
        · rw [if_neg hlast] at hwalk ⊢
          exact ih hwalk

theorem locate_put (h : t.find? l ≠ some .dir) (n : Node) {target : Location}
    (hlocate : t.locate p = .ok target) : (t.put l n).locate p = .ok target := by
  unfold locate at hlocate ⊢
  by_cases hzero : p.hasZero = true
  · rw [if_pos hzero] at hlocate
    cases hlocate
  rw [if_neg hzero] at hlocate ⊢
  by_cases hlong : maxPathBytes < p.text.utf8ByteSize
  · rw [if_pos hlong] at hlocate
    cases hlocate
  rw [if_neg hlong] at hlocate ⊢
  exact walk_put h n hlocate

/-- **A write that succeeds** puts the file where the path leads, and no directory was there. -/
theorem write_eq_ok (h : t.write p content = .ok t') :
    ∃ l, t.locate p = .ok l ∧ t.find? l ≠ some .dir ∧ t' = t.put l (.file content) := by
  unfold write at h
  split at h
  · next t'' hsteps =>
    obtain rfl := Except.ok.inj h
    obtain ⟨l, hlocate, hupdate⟩ := bind_eq_ok_iff.1 hsteps
    refine ⟨l, hlocate, ?_⟩
    unfold update at hupdate
    split at hupdate
    · cases hupdate
    · next old hfind =>
      rw [hfind]
      exact ⟨nofun, (Except.ok.inj hupdate).symm⟩
    · next hfind =>
      rw [hfind]
      exact ⟨nofun, (Except.ok.inj hupdate).symm⟩
  · cases h

/-- **What is written to a file is what its path leads to.** -/
theorem lookup_of_write (h : t.write p content = .ok t') : t'.lookup p = .ok (.file content) := by
  obtain ⟨l, hlocate, hfind, rfl⟩ := write_eq_ok h
  have hfile : (t.put l (.file content)).find? l = some (.file content) := by
    rw [find?_put t l l _ (ne_nil_of_not_dir hfind), if_pos rfl]
  refine bind_eq_ok_iff.2 ⟨l, locate_put hfind _ hlocate, ?_⟩
  rw [hfile]

theorem holds_of_write (h : t.write p content = .ok t') : t'.holds p = .ok true := by
  rw [holds, lookup_of_write h]

theorem read_of_write (h : t.write p content = .ok t') : t'.read p = .ok content := by
  rw [read, lookup_of_write h]

end OpenerPolicy.Files.Tree
