/-
  File:      OpenerPolicy/Proofs/Settings/Loading.lean
  Subject:   LOADING SETTINGS FAILS IN TWO WAYS ONLY.

  Four steps lie between a path and settings: something has to be there, it has to be a file in UTF-8,
  its text has to be JSON, and the value has to be in order. A path where nothing is has a kind of
  fault of its own; all that can be wrong with what is there is a fault of a value.

  * `read_eq_ok_iff`, `requireFile_eq_ok_iff`, `requireFile_eq_error` -- the steps on the tree;
  * `readPoints_eq_ok_iff` -- the code points of a file are those of the text whose UTF-8 it holds;
  * `load_eq_ok_iff` -- when settings are loaded, and which;
  * `kind_of_readDocument` -- the kinds of fault of what is there;
  * **`loading_outcome`** -- the outcomes of loading, and that the tree stays as it is.
-/
import OpenerPolicy.Proofs.Steps
import OpenerPolicy.Proofs.Text.Utf8
import OpenerPolicy.Settings.Document

namespace OpenerPolicy

open Files

/-! ## 1. The steps -/

/-- What a path leads to is read if it is a file. -/
theorem Files.Tree.read_eq_ok_iff (t : Tree) (path : Path) (bytes : List UInt8) :
    t.read path = .ok bytes ↔ t.lookup path = .ok (.file bytes) := by
  unfold Tree.read
  cases t.lookup path with
  | error o => constructor <;> intro h <;> cases h
  | ok n =>
    cases n with
    | dir => constructor <;> intro h <;> cases h
    | file content => constructor <;> intro h <;> cases h <;> rfl

namespace Settings

section Steps

variable {t : Tree} {path : Path} {kind : String}

theorem requireFile_eq_ok_iff :
    requireFile t path kind = .ok () ↔ ∃ n, t.lookup path = .ok n := by
  unfold requireFile Tree.holds
  cases t.lookup path with
  | ok n => exact ⟨fun _ => ⟨n, rfl⟩, fun _ => rfl⟩
  | error o =>
    constructor
    · intro h
      cases o <;> cases h
    · rintro ⟨n, hn⟩
      cases hn

/-- Where nothing is, a file is missing, unless a name or the path is too long. -/
theorem requireFile_eq_error (hname : t.lookup path ≠ .error .nameTooLong) {f : DocumentFault}
    (h : requireFile t path kind = .error f) : f = .absent kind path := by
  unfold requireFile Tree.holds at h
  cases hlookup : t.lookup path with
  | ok n =>
    rw [hlookup] at h
    cases h
  | error o =>
    rw [hlookup] at h hname
    cases o with
    | nameTooLong => exact absurd rfl hname
    | _ => exact (Except.error.inj h).symm

/-- Reading a file in UTF-8, step by step. -/
theorem readPoints_eq : readPoints t path kind encodingName =
    (t.read path).mapError (.unreadable kind path) >>= fun bytes =>
      (Text.Encoding.utf8.decode bytes).mapError .undecodable >>= fun points =>
        .ok (Text.unifyLineEnds points) := by
  have hzero : holdsZero encodingName = false := by decide
  have hname : Text.Encoding.ofName encodingName = .ok .utf8 := rfl
  rw [readPoints, hzero, if_neg Bool.false_ne_true, hname]
  rfl

/-- **A file has code points exactly if it holds the UTF-8 of a text.** -/
theorem readPoints_eq_ok_iff (points : List Nat) :
    readPoints t path kind encodingName = .ok points ↔ ∃ text,
      t.lookup path = .ok (.file (Text.utf8Bytes text)) ∧
        points = Text.unifyLineEnds (Text.points text) := by
  rw [readPoints_eq]
  simp only [bind_eq_ok_iff, mapError_eq_ok_iff, Tree.read_eq_ok_iff, Text.decode_utf8_eq_ok_iff]
  constructor
  · rintro ⟨bytes, hbytes, _, ⟨text, rfl, rfl⟩, hpoints⟩
    exact ⟨text, hbytes, (Except.ok.inj hpoints).symm⟩
  · rintro ⟨text, hbytes, rfl⟩
    exact ⟨_, hbytes, _, ⟨text, rfl, rfl⟩, rfl⟩

end Steps

/-! ## 2. Documents -/

section Documents

variable {t : Tree} {path : Path} {kind : String} {α : Type} {check : Json → Checked α}

theorem readDocument_eq_ok_iff (a : α) :
    readDocument t path kind encodingName check = .ok a ↔ ∃ text d,
      t.lookup path = .ok (.file (Text.utf8Bytes text)) ∧
        Json.parse (Text.unifyLineEnds (Text.points text)) = .ok d ∧ check d = .ok a := by
  rw [readDocument]
  simp only [bind_eq_ok_iff, mapError_eq_ok_iff, readPoints_eq_ok_iff]
  constructor
  · rintro ⟨_, ⟨text, hbytes, rfl⟩, d, hparse, hcheck⟩
    exact ⟨text, d, hbytes, hparse, hcheck⟩
  · rintro ⟨text, d, hbytes, hparse, hcheck⟩
    exact ⟨_, ⟨text, hbytes, rfl⟩, d, hparse, hcheck⟩

/-- A fault of reading code points is that of a path that leads to no file, or of bytes that are no
    text. -/
theorem readPoints_eq_error {f : DocumentFault}
    (h : readPoints t path kind encodingName = .error f) :
    (∃ bytes, t.lookup path = .ok (.file bytes) ∧ (∀ text, bytes ≠ Text.utf8Bytes text) ∧
        f.kind = "UnicodeDecodeError") ∨
      (∀ bytes, t.lookup path ≠ .ok (.file bytes)) ∧ f.kind = "ValueError" := by
  rw [readPoints_eq] at h
  rcases bind_eq_error h with hread | ⟨bytes, hread, h⟩
  · obtain ⟨f', hf', rfl⟩ := mapError_eq_error hread
    refine Or.inr ⟨fun bytes hbytes => ?_, rfl⟩
    cases hf'.symm.trans ((t.read_eq_ok_iff path bytes).2 hbytes)
  · rw [mapError_eq_ok_iff, Tree.read_eq_ok_iff] at hread
    rcases bind_eq_error h with hdecode | ⟨points, -, h⟩
    · obtain ⟨f', hf', rfl⟩ := mapError_eq_error hdecode
      obtain ⟨f'', rfl⟩ := Text.decode_utf8_eq_error hf'
      refine Or.inl ⟨bytes, hread, fun text htext => ?_, rfl⟩
      cases hf'.symm.trans ((Text.decode_utf8_eq_ok_iff bytes _).2 ⟨text, htext, rfl⟩)
    · cases h

/-- **The faults of what is there are faults of a value**, and those of bytes that are no text have a
    name of their own. -/
theorem kind_of_readDocument {f : DocumentFault}
    (h : readDocument t path kind encodingName check = .error f) :
    (∃ bytes, t.lookup path = .ok (.file bytes) ∧ (∀ text, bytes ≠ Text.utf8Bytes text) ∧
        f.kind = "UnicodeDecodeError") ∨
      (∀ bytes, t.lookup path = .ok (.file bytes) → ∃ text, bytes = Text.utf8Bytes text) ∧
        f.kind = "ValueError" := by
  rw [readDocument] at h
  rcases bind_eq_error h with hpoints | ⟨points, hpoints, h⟩
  · refine (readPoints_eq_error hpoints).imp id fun ⟨hnone, hkind⟩ => ⟨?_, hkind⟩
    exact fun bytes hbytes => absurd hbytes (hnone bytes)
  · obtain ⟨text, htext, -⟩ := (readPoints_eq_ok_iff points).1 hpoints
    refine Or.inr ⟨fun bytes hbytes => ⟨text, ?_⟩, ?_⟩
    · cases hbytes.symm.trans htext
      rfl
    rcases bind_eq_error h with hparse | ⟨d, -, hcheck⟩
    · obtain ⟨f', -, rfl⟩ := mapError_eq_error hparse
      rfl
    · obtain ⟨issues, -, rfl⟩ := mapError_eq_error hcheck
      rfl

end Documents

/-! ## 3. Settings -/

section Loading

variable {t : Tree} {path : Path}

/-- **When settings are loaded, and which.** -/
theorem load_eq_ok_iff (s : Settings) : load t path = .ok s ↔ ∃ text d,
    t.lookup path = .ok (.file (Text.utf8Bytes text)) ∧
      Json.parse (Text.unifyLineEnds (Text.points text)) = .ok d ∧ Settings.check d = .ok s := by
  have hdocument : readDocument t path "config" encodingName Settings.check = .ok s ↔ _ :=
    readDocument_eq_ok_iff s
  rw [← hdocument, load, bind_eq_ok_iff]
  constructor
  · rintro ⟨_, -, h⟩
    exact h
  · intro h
    obtain ⟨text, -, hfile, -⟩ := (readDocument_eq_ok_iff s).1 h
    exact ⟨(), requireFile_eq_ok_iff.2 ⟨_, hfile⟩, h⟩

/-- A fault of loading is that of a path where nothing is, or of what is there. -/
theorem load_eq_error (hname : t.lookup path ≠ .error .nameTooLong) {f : DocumentFault}
    (h : load t path = .error f) :
    (¬ ∃ n, t.lookup path = .ok n) ∧ f = .absent "configuration" path ∨
      (∃ n, t.lookup path = .ok n) ∧
        readDocument t path "config" encodingName Settings.check = .error f := by
  rcases bind_eq_error h with hfile | ⟨_, hfile, h⟩
  · refine Or.inl ⟨fun hthere => ?_, requireFile_eq_error hname hfile⟩
    cases (requireFile_eq_ok_iff.2 hthere).symm.trans hfile
  · exact Or.inr ⟨requireFile_eq_ok_iff.1 hfile, h⟩

/-- **The outcomes of loading.** A file is reported as missing exactly if nothing is there. Settings
    are loaded exactly if there is a file with the UTF-8 of a text, the text is JSON and the value is
    accepted, and they are what the value gives. All else that can go wrong with what is there is a
    fault of a value; bytes that are no text have a name of their own. The tree stays as it is. -/
theorem loading_outcome (t : Tree) (path : Path) (hname : t.lookup path ≠ .error .nameTooLong) :
    ∃ outcome, loading t path = (t, outcome) ∧
      ((∃ f, outcome = .error f ∧ f.kind = "FileNotFoundError") ↔ ¬ ∃ n, t.lookup path = .ok n) ∧
      (∀ s, outcome = .ok s ↔ ∃ text d, t.lookup path = .ok (.file (Text.utf8Bytes text)) ∧
        Json.parse (Text.unifyLineEnds (Text.points text)) = .ok d ∧ Settings.check d = .ok s) ∧
      ∀ f, outcome = .error f → (∃ n, t.lookup path = .ok n) →
        (∃ bytes, t.lookup path = .ok (.file bytes) ∧ (∀ text, bytes ≠ Text.utf8Bytes text) ∧
            f.kind = "UnicodeDecodeError") ∨
          (∀ bytes, t.lookup path = .ok (.file bytes) → ∃ text, bytes = Text.utf8Bytes text) ∧
            f.kind = "ValueError" := by
  refine ⟨load t path, rfl, ⟨?_, fun hnone => ?_⟩, load_eq_ok_iff, fun f hf hthere => ?_⟩
  · rintro ⟨f, hf, hkind⟩
    rcases load_eq_error hname hf with ⟨hnone, -⟩ | ⟨-, h⟩
    · exact hnone
    -- what is there has faults of other kinds
    · rcases kind_of_readDocument h with ⟨_, -, -, hother⟩ | ⟨-, hother⟩
      · exact absurd (hkind.symm.trans hother) (by decide)
      · exact absurd (hkind.symm.trans hother) (by decide)
  · cases hload : load t path with
    | ok s =>
      obtain ⟨text, -, hfile, -⟩ := (load_eq_ok_iff s).1 hload
      exact absurd ⟨_, hfile⟩ hnone
    | error f =>
      rcases load_eq_error hname hload with ⟨-, rfl⟩ | ⟨hthere, -⟩
      · exact ⟨_, rfl, rfl⟩
      · exact absurd hthere hnone
  · rcases load_eq_error hname hf with ⟨hnone, -⟩ | ⟨-, h⟩
    · exact absurd hthere hnone
    · exact kind_of_readDocument h

/-- A file with an empty object and one with a byte that no character starts with. -/
def fewFiles : Tree :=
  ⟨[(["good"], .file (Text.utf8Bytes "\x7b\x7d\r\n")), (["bad"], .file [0x7B, 0xC3, 0x7D])], []⟩

/-- The one gives the settings that stand in for others, the other is no text, and a third one is
    missing. -/
theorem few_files_loaded :
    loading fewFiles (Path.parse "good") = (fewFiles, .ok {}) ∧
      (∃ f, loading fewFiles (Path.parse "bad") = (fewFiles, .error f) ∧
        f.kind = "UnicodeDecodeError") ∧
      ∃ f, loading fewFiles (Path.parse "none") = (fewFiles, .error f) ∧
        f.kind = "FileNotFoundError" := by
  have hgood : fewFiles.lookup (Path.parse "good") = .ok (.file (Text.utf8Bytes "\x7b\x7d\r\n")) := rfl
  have hbad : fewFiles.lookup (Path.parse "bad") = .ok (.file [0x7B, 0xC3, 0x7D]) := rfl
  have hnone : fewFiles.lookup (Path.parse "none") = .error .missing := rfl
  have hgoodName : fewFiles.lookup (Path.parse "good") ≠ .error .nameTooLong :=
    fun h => by cases hgood.symm.trans h
  have hbadName : fewFiles.lookup (Path.parse "bad") ≠ .error .nameTooLong :=
    fun h => by cases hbad.symm.trans h
  have hnoneName : fewFiles.lookup (Path.parse "none") ≠ .error .nameTooLong :=
    fun h => by cases hnone.symm.trans h
  have hnoText (text : String) : [0x7B, 0xC3, 0x7D] ≠ Text.utf8Bytes text := by
    intro h
    rw [← String.ofList_toList (s := text), ← Text.Utf8.decode_eq_ok_iff] at h
    cases h
  refine ⟨?_, ?_, ?_⟩
  · obtain ⟨outcome, houtcome, -, hok, -⟩ := loading_outcome fewFiles (Path.parse "good") hgoodName
    rw [houtcome, (hok {}).2 ⟨"\x7b\x7d\r\n", .members [], hgood, rfl, rfl⟩]
  · obtain ⟨outcome, houtcome, -, hok, hkinds⟩ := loading_outcome fewFiles (Path.parse "bad") hbadName
    cases outcome with
    | ok s =>
      obtain ⟨text, -, hfile, -⟩ := (hok s).1 rfl
      exact absurd (Node.file.inj (Except.ok.inj (hbad.symm.trans hfile))) (hnoText text)
    | error f =>
      refine ⟨f, houtcome, ?_⟩
      rcases hkinds f rfl ⟨_, hbad⟩ with ⟨_, -, -, hkind⟩ | ⟨htext, -⟩
      · exact hkind
      · obtain ⟨text, h⟩ := htext _ hbad
        exact absurd h (hnoText text)
  · obtain ⟨outcome, houtcome, hmissing, -⟩ := loading_outcome fewFiles (Path.parse "none") hnoneName
    obtain ⟨f, rfl, hkind⟩ := hmissing.2 fun ⟨n, hn⟩ => by cases hnone.symm.trans hn
    exact ⟨f, houtcome, hkind⟩

end Loading

end Settings

end OpenerPolicy
