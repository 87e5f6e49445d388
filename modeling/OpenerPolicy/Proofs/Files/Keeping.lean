/-
  File:      OpenerPolicy/Proofs/Files/Keeping.lean
  Subject:   WHAT STAYS OF A TREE WHEN DIRECTORIES ARE MADE AND FILES ARE OPENED.

  A directory is made only where nothing is, and a file that is opened to be added to is made empty or
  left as it is. So neither changes the text of any file; only adding to a file does, and it changes
  that one alone.

  * `Tree.textAt`, `Tree.IsFile` -- the text at a location, and whether there is a file at all;
  * `Tree.Keeps` -- a later tree has the same texts and the same working directory, and no file is
    gone; `Grown.keeps`, `keeps_makeDirs`, `keeps_update_id` -- so it is once directories are made or a
    file is opened;
  * `textAt_append` -- what adding to a file does to the text at every location;
  * **`locate_absolute`** -- an absolute path leads to the location of its parts and nowhere else.
-/
import OpenerPolicy.Proofs.Files.Growing

namespace OpenerPolicy.Files.Tree

/-! ## 1. The text at a location -/

/-- **The text at a location**; there is none where no file is. -/
def textAt (t : Tree) (l : Location) : List UInt8 :=
  match t.find? l with
  | some (.file content) => content
  | _ => []

def IsFile (t : Tree) (l : Location) : Prop := ∃ content, t.find? l = some (.file content)

theorem textAt_of_find? {t : Tree} {l : Location} {content : List UInt8}
    (h : t.find? l = some (.file content)) : t.textAt l = content := by
  rw [textAt, h]

theorem textAt_put (t : Tree) (l l' : Location) (content : List UInt8) (h : l ≠ []) :
    (t.put l (.file content)).textAt l' = if l = l' then content else t.textAt l' := by
  by_cases heq : l = l'
  · rw [textAt, find?_put t l l' _ h, if_pos heq, if_pos heq]
  · rw [textAt, find?_put t l l' _ h, if_neg heq, if_neg heq, textAt]

theorem isFile_put {t : Tree} {l l' : Location} (content : List UInt8) (h : l ≠ [])
    (hfile : t.IsFile l') : (t.put l (.file content)).IsFile l' := by
  obtain ⟨old, hold⟩ := hfile
  by_cases heq : l = l'
  · exact ⟨content, by rw [find?_put t l l' _ h, if_pos heq]⟩
  · exact ⟨old, by rw [find?_put t l l' _ h, if_neg heq, hold]⟩

/-! ## 2. Texts that stay -/

/-- **A later tree keeps the texts of an earlier one.** -/
structure Keeps (t t' : Tree) : Prop where
  working : t'.working = t.working
  text : ∀ l, t'.textAt l = t.textAt l
  files : ∀ l, t.IsFile l → t'.IsFile l

theorem Keeps.refl (t : Tree) : t.Keeps t := ⟨rfl, fun _ => rfl, fun _ h => h⟩

theorem Keeps.trans {t t' t'' : Tree} (h : t.Keeps t') (h' : t'.Keeps t'') : t.Keeps t'' where
  working := h'.working.trans h.working
  text l := (h'.text l).trans (h.text l)
  files l hfile := h'.files l (h.files l hfile)

/-- Directories at free locations change no text. -/
theorem Grown.keeps {t t' : Tree} {place : Location → Prop} (h : t.Grown t' place) : t.Keeps t' := by
  refine ⟨h.working, fun l => ?_, fun l hfile => ?_⟩
  · rcases h.node l with hsame | ⟨-, hfree, hmade⟩
    · rw [textAt, textAt, hsame]
    · rw [textAt, textAt, hfree, hmade]
  · obtain ⟨content, hcontent⟩ := hfile
    exact ⟨content, h.find?_of_some hcontent⟩

/-- **Making directories changes no text.** -/
theorem keeps_makeDirs (t : Tree) (p : Path) : t.Keeps (t.makeDirs p).1 :=
  (grown_makeDirs t p).keeps

/-- A change of a file puts the new text where the old one was, and no directory was there. -/
theorem update_eq_ok {t t' : Tree} {l : Location} {f : List UInt8 → List UInt8}
    (h : t.update l f = .ok t') :
    t.find? l ≠ some .dir ∧ t' = t.put l (.file (f (t.textAt l))) := by
  cases hfind : t.find? l with
  | none =>
    rw [update, hfind] at h
    rw [textAt, hfind]
    refine ⟨fun heq => ?_, (Except.ok.inj h).symm⟩
    cases heq
  | some node =>
    cases node with
    | dir =>
      rw [update, hfind] at h
      cases h
    | file content =>
      rw [update, hfind] at h
      rw [textAt, hfind]
      refine ⟨fun heq => ?_, (Except.ok.inj h).symm⟩
      cases heq

/-- **Opening a file to add to it changes no text**; afterwards the file is there. -/
theorem keeps_update_id {t t' : Tree} {l : Location} (h : t.update l id = .ok t') :
    t.Keeps t' ∧ t'.IsFile l := by
  obtain ⟨hdir, rfl⟩ := update_eq_ok h
  have hne := ne_nil_of_not_dir hdir
  refine ⟨⟨rfl, fun l' => ?_, fun l' hfile => isFile_put _ hne hfile⟩, t.textAt l, ?_⟩
  · rw [textAt_put t l l' _ hne]
    split
    · next heq => rw [heq, id]
    · rfl
  · rw [find?_put t l l _ hne, if_pos rfl, id]

/-! ## 3. Adding to a file -/

/-- **Adding to a file** lengthens its text at the end and changes no other. -/
theorem textAt_append {t : Tree} {l : Location} (hfile : t.IsFile l) (more : List UInt8)
    (l' : Location) :
    (t.append l more).textAt l' = if l = l' then t.textAt l' ++ more else t.textAt l' := by
  obtain ⟨content, hcontent⟩ := hfile
  have hne : l ≠ [] := by
    rintro rfl
    cases hcontent
  rw [append, hcontent]
  show (t.put l (.file (content ++ more))).textAt l' = _
  rw [textAt_put t l l' _ hne]
  split
  · next heq => rw [← heq, textAt_of_find? hcontent]
  · rfl

/-- Adding to a file takes none away, and what is at a location with no file stays. -/
theorem isFile_append {t : Tree} {l' : Location} (h : t.IsFile l') (l : Location) (more : List UInt8) :
    (t.append l more).IsFile l' := by
  unfold append
  split
  · next content hcontent =>
    refine isFile_put (content ++ more) ?_ h
    rintro rfl
    cases hcontent
  · exact h

/-- Where no file is added to, every text stays. -/
theorem textAt_append_of_ne {t : Tree} {l l' : Location} (h : l ≠ l') (more : List UInt8) :
    (t.append l more).textAt l' = t.textAt l' := by
  by_cases hfile : t.IsFile l
  · rw [textAt_append hfile, if_neg h]
  · unfold append
    split
    · next content hcontent => exact absurd ⟨content, hcontent⟩ hfile
    · rfl

/-! ## 4. Absolute paths -/

/-- Dots that are taken back leave none. -/
theorem dots_not_mem_reduceDots {parts done : List String} (h : ".." ∉ done) :
    ".." ∉ reduceDots done parts := by
  induction parts generalizing done with
  | nil => simpa [reduceDots] using h
  | cons part rest ih =>
    rw [reduceDots]
    refine ih ?_
    split
    · exact fun hmem => h (List.mem_of_mem_drop hmem)
    · next hpart =>
      intro hmem
      rcases List.mem_cons.1 hmem with heq | hmem
      · exact hpart heq.symm
      · exact h hmem

/-- Parts without dots lead straight down. -/
theorem follow_of_no_dots {parts : List String} (h : ".." ∉ parts) (here : Location) :
    follow here parts = here ++ parts := by
  induction parts generalizing here with
  | nil => exact (List.append_nil here).symm
  | cons part rest ih =>
    obtain ⟨hpart, hrest⟩ := List.ne_and_not_mem_of_not_mem_cons h
    show follow (if part = ".." then here.dropLast else here ++ [part]) rest = _
    rw [if_neg (Ne.symm hpart), ih hrest, List.append_assoc]
    rfl

/-- **An absolute path leads to the location of its parts.** -/
theorem locate_absolute {t t' : Tree} {p : Path} {l : Location}
    (h : t'.locate (t.absolute p) = .ok l) : l = (t.absolute p).parts := by
  have hslashes : (t.absolute p).slashes ≠ 0 := by
    show (if p.slashes = 0 then 1 else p.slashes) ≠ 0
    split
    · exact Nat.one_ne_zero
    · assumption
  have horigin : t'.origin (t.absolute p) = [] := by rw [origin, if_neg hslashes]
  have hdots : ".." ∉ (t.absolute p).parts := dots_not_mem_reduceDots List.not_mem_nil
  rw [locate_eq_follow h, horigin, follow_of_no_dots hdots, List.nil_append]

end OpenerPolicy.Files.Tree
