/-
  File:      OpenerPolicy/Proofs/Settings/Saving.lean
  Subject:   WHAT SAVING SETTINGS DOES TO THE OTHER FILES.

  The directories above the file are made first, and only then the file is written, in one piece. So
  whatever goes wrong does so before a file is touched: saving changes the one file it is asked for,
  or none. Directories are only ever added, on the way to the file.

  * `save_cases` -- the tree after the directories are made, and the two ways on from there;
  * **`save_changes_target_only`** -- what is different after saving, whether it succeeds or not.
-/
import OpenerPolicy.Proofs.Files.Growing
import OpenerPolicy.Settings.Document

namespace OpenerPolicy.Settings

open Files Files.Tree

/-- **Both outcomes of saving**: after some missing directories are made, there is a fault and nothing
    else happens, or the file is written. -/
theorem save_cases (s : Settings) (t : Tree) (path : Path) :
    ∃ t₀, t.Grown t₀ (OnWay (t.origin path) path.parent.parts) ∧
      ((∃ f, s.save t path = (t₀, .error f)) ∨
        ∃ t₁, t₀.write path (Text.utf8Bytes s.document) = .ok t₁ ∧
          s.save t path = (t₁, .ok ())) := by
  have hgrown := grown_makeDirs t path.parent
  unfold save
  split
  · next t₀ f hmade =>
    rw [hmade] at hgrown
    exact ⟨t₀, hgrown, Or.inl ⟨f, rfl⟩⟩
  · next t₀ hmade =>
    rw [hmade] at hgrown
    refine ⟨t₀, hgrown, ?_⟩
    cases hwrite : t₀.write path (Text.utf8Bytes s.document) with
    | ok t₁ => exact Or.inr ⟨t₁, rfl, rfl⟩
    | error f => exact Or.inl ⟨f, rfl⟩

/-- **What saving does to a tree**, for all settings, every tree and every path, dots included:

    * if it succeeds, the file is where its path leads, no other file was made, removed or changed, and
      every directory is still there;
    * if it fails, no file at all was made, removed or changed, and every directory is still there.

    In both cases a directory that is new was missing on the way to the file. -/
theorem save_changes_target_only (s : Settings) (t : Tree) (path : Path) :
    let after := (s.save t path).1
    let target := follow (t.origin path) path.parts
    (∀ l, t.find? l = some .dir → after.find? l = some .dir) ∧
    (∀ l, after.find? l = some .dir →
      t.find? l = some .dir ∨ t.find? l = none ∧ OnWay (t.origin path) path.parent.parts l) ∧
    (((s.save t path).2 = .ok () ∧ after.locate path = .ok target ∧
        after.find? target = some (.file (Text.utf8Bytes s.document)) ∧
        ∀ l, l ≠ target → ∀ content,
          after.find? l = some (.file content) ↔ t.find? l = some (.file content)) ∨
      ((∃ f, (s.save t path).2 = .error f) ∧
        ∀ l content, after.find? l = some (.file content) ↔ t.find? l = some (.file content))) := by
  intro after target
  obtain ⟨t₀, hgrown, hcases⟩ := save_cases s t path
  -- a directory of the tree in between was there or is new
  have hnew : ∀ l, t₀.find? l = some .dir →
      t.find? l = some .dir ∨ t.find? l = none ∧ OnWay (t.origin path) path.parent.parts l := by
    intro l hl
    rcases hgrown.node l with hsame | ⟨hway, hfree, -⟩
    · exact Or.inl (hsame.symm.trans hl)
    · exact Or.inr ⟨hfree, hway⟩
  rcases hcases with ⟨f, hsave⟩ | ⟨t₁, hwrite, hsave⟩
  · have hafter : after = t₀ := congrArg Prod.fst hsave
    rw [hafter, hsave]
    exact ⟨fun l hl => hgrown.find?_of_some hl, hnew, Or.inr ⟨⟨f, rfl⟩, hgrown.find?_eq_file_iff⟩⟩
  · obtain ⟨l₀, hlocate, hdir, rfl⟩ := write_eq_ok hwrite
    have hafter : after = t₀.put l₀ (.file (Text.utf8Bytes s.document)) := congrArg Prod.fst hsave
    obtain rfl : l₀ = target := by
      rw [locate_eq_follow hlocate, origin_of_working hgrown.working]
    have hput (l : Location) := find?_put t₀ target l (.file (Text.utf8Bytes s.document))
      (ne_nil_of_not_dir hdir)
    rw [hafter, hsave]
    refine ⟨fun l hl => ?_, fun l hl => ?_,
      Or.inl ⟨rfl, locate_put hdir _ hlocate, ?_, fun l hne content => ?_⟩⟩
    · have hl₀ := hgrown.find?_of_some hl
      rw [hput, if_neg, hl₀]
      rintro rfl
      exact hdir hl₀
    · rw [hput] at hl
      split at hl
      · cases hl
      · exact hnew l hl
    · rw [hput, if_pos rfl]
    · rw [hput, if_neg (Ne.symm hne)]
      exact hgrown.find?_eq_file_iff l content

end OpenerPolicy.Settings
