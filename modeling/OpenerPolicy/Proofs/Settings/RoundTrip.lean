/-
  File:      OpenerPolicy/Proofs/Settings/RoundTrip.lean
  Subject:   SETTINGS THAT ARE SAVED ARE LOADED UNCHANGED.

  Settings are written as an indented document in ASCII and read through five steps: the bytes of the
  file, its text, its ends of lines, the JSON value and the check. Each step gives back what the
  writer put in, whatever text the policies and the directory hold and wherever the file is.

  * `exists_check_iff` -- the settings that a check can give; `Valid` -- those with text alone;
  * `check_toJson` -- the JSON form of valid settings is accepted and gives the same settings;
  * `plain_toJson`, `parse_document`, `ascii_document` -- their document;
  * **`load_of_save`** -- what was saved is in ASCII and is loaded unchanged.
-/
import OpenerPolicy.Proofs.Json.Layout
import OpenerPolicy.Proofs.Settings.Loading
import OpenerPolicy.Proofs.Settings.Saving
import OpenerPolicy.Proofs.Text.Ascii

namespace OpenerPolicy

open Files Settings

/-! ## 1. The check -/

theorem LoggingSettings.check_toJson {s : LoggingSettings} (h : s.directory ≠ some "") :
    LoggingSettings.check s.toJson = .ok s := by
  obtain ⟨directory, level⟩ := s
  cases directory with
  | none => cases level <;> rfl
  | some d =>
    have hd : d ≠ "" := fun hd => h (congrArg some hd)
    have hfull : checkFullText (.str d) = .ok d := if_neg hd
    have hchecked : LoggingSettings.check (LoggingSettings.toJson ⟨some d, level⟩)
        = (Checked.and (Checked.under (.member "log_dir") ((checkFullText (.str d)).map some))
            (.ok level)).map fun both => ⟨both.1, both.2⟩ := by
      cases level <;> rfl
    rw [hchecked, hfull]
    rfl

theorem OpenerSettings.check_toJson (s : OpenerSettings) :
    OpenerSettings.check s.toJson = .ok s := by
  obtain ⟨policies⟩ := s
  have hitems : checkFrom PolicySettings.check 0 (policies.map PolicySettings.toJson)
      = .ok policies := by
    rw [checkFrom_eq_ok_iff, List.map_map]
    exact List.map_congr_left fun p _ => PolicySettings.check_toJson p
  have hchecked : OpenerSettings.check (OpenerSettings.toJson ⟨policies⟩)
      = ((checkFrom PolicySettings.check 0 (policies.map PolicySettings.toJson)).under
          (.member "policies")).map fun policies => ⟨policies⟩ := rfl
  rw [hchecked, hitems]
  rfl

/-- **The JSON form of valid settings is accepted and gives the same settings.** -/
theorem Settings.check_toJson {s : Settings} (h : s.logging.directory ≠ some "") :
    Settings.check s.toJson = .ok s := by
  obtain ⟨logging, opener⟩ := s
  have hlogging : LoggingSettings.check logging.toJson = .ok logging :=
    LoggingSettings.check_toJson h
  have hchecked : Settings.check (Settings.toJson ⟨logging, opener⟩)
      = (((LoggingSettings.check logging.toJson).under (.member "logging")).and
          ((OpenerSettings.check opener.toJson).under (.member "coop"))).map
        fun both => ⟨both.1, both.2⟩ := rfl
  rw [hchecked, hlogging, OpenerSettings.check_toJson]
  rfl

/-! ## 2. Valid settings -/

namespace Settings

/-- **Settings with text alone**: no group of a policy has a surrogate that stands alone. -/
def HasText (s : Settings) : Prop := ∀ p ∈ s.opener.policies, ∃ group, p.group = .whole group

/-- **Valid settings**: those that a check can give, with text alone. -/
structure Valid (s : Settings) : Prop where
  checked : ∃ j, Settings.check j = .ok s
  text : s.HasText

section Inversion

variable {α β γ : Type} {j : Json} {name : String} {a : α}

theorem record_eq_ok {members : Checked α} (h : record name j members = .ok a) :
    members = .ok a := by
  cases j with
  | members fields => exact h
  | _ => cases h

theorem optional_eq_ok {absent : α} {check : Json → Checked α}
    (h : optional j name absent check = .ok a) : a = absent ∨ ∃ value, check value = .ok a := by
  unfold optional at h
  cases hf : j.field? name with
  | none =>
    rw [hf] at h
    exact Or.inl (Except.ok.inj h).symm
  | some value =>
    rw [hf] at h
    exact Or.inr ⟨value, (under_eq_ok_iff _ _ _).1 h⟩

theorem map_and_eq_ok {x : Checked α} {y : Checked β} {make : α × β → γ} {c : γ}
    (h : (x.and y).map make = .ok c) : ∃ a b, x = .ok a ∧ y = .ok b ∧ c = make (a, b) := by
  obtain ⟨⟨a, b⟩, hboth, rfl⟩ := map_eq_ok_iff.1 h
  obtain ⟨ha, hb⟩ := (Checked.and_eq_ok_iff x y a b).1 hboth
  exact ⟨a, b, ha, hb, rfl⟩

end Inversion

/-- A directory that is checked is not empty. -/
theorem directory_ne_empty {j : Json} {directory : Option String}
    (h : checkDirectory j = .ok directory) : directory ≠ some "" := by
  cases j with
  | null =>
    obtain rfl := Except.ok.inj h
    nofun
  | text t =>
    cases t with
    | torn points => cases h
    | whole s =>
      by_cases hs : s = ""
      · subst hs
        cases h
      · have hfull : checkDirectory (.str s) = .ok (some s) := by
          show (if s = "" then Checked.fail .emptyText else .ok s).map some = _
          rw [if_neg hs]
          rfl
        obtain rfl := Except.ok.inj (hfull.symm.trans h)
        exact fun heq => hs (Option.some.inj heq)
  | _ => cases h

/-- **Settings can be given by a check exactly if their directory for logs is not empty.** -/
theorem exists_check_iff (s : Settings) :
    (∃ j, Settings.check j = .ok s) ↔ s.logging.directory ≠ some "" := by
  constructor
  · rintro ⟨j, hj⟩
    obtain ⟨logging, opener, hlogging, -, rfl⟩ := map_and_eq_ok (record_eq_ok hj)
    rcases optional_eq_ok hlogging with rfl | ⟨value, hvalue⟩
    · nofun
    · obtain ⟨directory, level, hdirectory, -, rfl⟩ := map_and_eq_ok (record_eq_ok hvalue)
      rcases optional_eq_ok hdirectory with rfl | ⟨value, hvalue⟩
      · nofun
      · exact directory_ne_empty hvalue
  · exact fun h => ⟨s.toJson, check_toJson h⟩

end Settings

/-! ## 3. The document -/

theorem PolicySettings.plain_toJson {p : PolicySettings} (h : ∃ group, p.group = .whole group) :
    Json.Plain (.value p.toJson) := by
  obtain ⟨mode, group, reportOnly⟩ := p
  obtain ⟨group, rfl⟩ := h
  have hnames : ["mode", "reporting_group", "report_only"].Nodup := by decide
  refine Json.plain_object hnames ?_
  simp only [List.forall_mem_cons]
  exact ⟨Json.Plain.text _, Json.Plain.text _, Json.Plain.bool _,
    fun field hf => absurd hf List.not_mem_nil⟩

theorem LoggingSettings.plain_toJson (s : LoggingSettings) : Json.Plain (.value s.toJson) := by
  have hnames : ["log_dir", "log_level"].Nodup := by decide
  have hdirectory : Json.Plain (.value (Json.ofOption Json.str s.directory)) := by
    cases s.directory with
    | none => exact Json.Plain.null
    | some d => exact Json.Plain.text d
  refine Json.plain_object hnames ?_
  simp only [List.forall_mem_cons]
  exact ⟨hdirectory, Json.Plain.text _, fun field hf => absurd hf List.not_mem_nil⟩

theorem OpenerSettings.plain_toJson {s : OpenerSettings}
    (h : ∀ p ∈ s.policies, ∃ group, p.group = .whole group) : Json.Plain (.value s.toJson) := by
  have hnames : ["policies"].Nodup := by decide
  refine Json.plain_object hnames fun field hf => ?_
  obtain rfl := List.mem_singleton.1 hf
  refine Json.Plain.list (Json.plain_items fun j hj => ?_)
  obtain ⟨p, hp, rfl⟩ := List.mem_map.1 hj
  exact PolicySettings.plain_toJson (h p hp)

/-- The JSON form of settings has no numbers, and no torn strings if they have text alone. -/
theorem Settings.plain_toJson {s : Settings} (h : s.HasText) : Json.Plain (.value s.toJson) := by
  have hnames : ["logging", "coop"].Nodup := by decide
  refine Json.plain_object hnames ?_
  simp only [List.forall_mem_cons]
  exact ⟨s.logging.plain_toJson, OpenerSettings.plain_toJson h,
    fun field hf => absurd hf List.not_mem_nil⟩

namespace Settings

/-- The line feed at the end of a document. -/
theorem points_document (s : Settings) :
    Text.points s.document = Text.points s.toJson.indented ++ [0x0A] := by
  rw [Text.points, document, String.toList_append, List.map_append]
  rfl

/-- **The document of settings has the value they were written for.** -/
theorem parse_document {s : Settings} (h : s.HasText) :
    Json.parse (Text.points s.document) = .ok s.toJson := by
  rw [points_document]
  refine Json.parse_indented (plain_toJson h) fun c hc => ?_
  obtain rfl := List.mem_singleton.1 hc
  decide

/-- **The document of settings is printable ASCII and line feeds**, whatever text they hold. -/
theorem printable_document {s : Settings} (h : s.HasText) :
    ∀ c ∈ Text.points s.document, Json.IsPrintable c ∨ c = 0x0A := by
  rw [points_document]
  refine List.forall_mem_append.2 ⟨Json.printable_indented (plain_toJson h), fun c hc => ?_⟩
  exact Or.inr (List.mem_singleton.1 hc)

/-! ## 4. The file -/

section Saved

variable {s : Settings} {t t' : Tree} {path : Path}

/-- Settings that are saved are written in UTF-8. -/
theorem write_of_save (h : s.save t path = (t', .ok ())) :
    ∃ t₀ : Tree, t₀.write path (Text.utf8Bytes s.document) = .ok t' := by
  obtain ⟨t₀, -, ⟨f, hsave⟩ | ⟨t₁, hwrite, hsave⟩⟩ := save_cases s t path
  · rw [h] at hsave
    cases hsave
  · rw [h] at hsave
    obtain rfl := (Prod.mk.inj hsave).1
    exact ⟨t₀, hwrite⟩

theorem ascii_document (h : s.HasText) : ∀ c ∈ s.document.toList, c.toNat < 0x80 := by
  intro c hc
  rcases printable_document h c.toNat (List.mem_map_of_mem hc) with hprintable | hfeed
  · exact Nat.lt_trans hprintable.2 (by decide)
  · rw [hfeed]
    decide

/-- The code points of a file with a document of settings. -/
theorem readPoints_of_read (hs : s.HasText) (h : t.read path = .ok (Text.utf8Bytes s.document))
    (kind : String) : readPoints t path kind encodingName = .ok (Text.points s.document) := by
  have hends : ∀ c ∈ Text.points s.document, c ≠ 0x0D :=
    fun c hc => Json.ne_return_of_printable (printable_document hs c hc)
  have hfile := (t.read_eq_ok_iff path _).1 h
  exact (readPoints_eq_ok_iff _).2 ⟨s.document, hfile, (Text.unifyLineEnds_of_forall hends).symm⟩

/-- **Settings that are saved are loaded unchanged**, whatever text they hold and wherever the file
    is; and the file is in ASCII. -/
theorem load_of_save (s : Settings) (t t' : Tree) (path : Path) (hs : s.Valid)
    (h : s.save t path = (t', .ok ())) :
    t'.read path = .ok (Text.utf8Bytes s.document) ∧
      (∀ b ∈ Text.utf8Bytes s.document, b.toNat < 0x80) ∧ Settings.load t' path = .ok s := by
  obtain ⟨t₀, hwrite⟩ := write_of_save h
  have hread := Tree.read_of_write hwrite
  refine ⟨hread, (Text.decode_utf8Bytes (ascii_document hs.text)).1, ?_⟩
  have hfile : requireFile t' path "configuration" = .ok () := by
    rw [requireFile, Tree.holds_of_write hwrite]
  refine bind_eq_ok_iff.2 ⟨(), hfile, ?_⟩
  refine bind_eq_ok_iff.2 ⟨_, readPoints_of_read hs.text hread "config", ?_⟩
  rw [parse_document hs.text]
  show (Settings.check s.toJson).mapError _ = _
  rw [check_toJson ((exists_check_iff s).1 hs.checked)]
  rfl

/-- Settings with quotes, a backslash, control characters, ends of lines of several kinds, and
    characters beyond the first 65536 code points. -/
def awkwardSettings : Settings where
  logging := ⟨some "C:\\log \"x\"\r\n\t\u2028", .warning⟩
  opener := ⟨[⟨.sameOrigin, .whole "grüße\x00\x1f\x7f", false⟩,
    ⟨.unsafeNone, .whole "\ud7ff\ue000😀", true⟩]⟩

/-- They are saved below a directory that is not there yet, and loaded unchanged. -/
theorem awkward_settings_loaded :
    ∃ t', awkwardSettings.save (Tree.empty ["work"]) (Path.parse "etc/../etc/x.json") = (t', .ok ()) ∧
      Settings.load t' (Path.parse "etc/../etc/x.json") = .ok awkwardSettings := by
  have htext : awkwardSettings.HasText :=
    List.forall_mem_cons.2 ⟨⟨_, rfl⟩, List.forall_mem_singleton.2 ⟨_, rfl⟩⟩
  have hvalid : awkwardSettings.Valid := ⟨(exists_check_iff _).2 (by decide), htext⟩
  have hsave : awkwardSettings.save (Tree.empty ["work"]) (Path.parse "etc/../etc/x.json")
      = ((awkwardSettings.save (Tree.empty ["work"]) (Path.parse "etc/../etc/x.json")).1, .ok ()) :=
    rfl
  exact ⟨_, hsave, (load_of_save awkwardSettings _ _ _ hvalid hsave).2.2⟩

end Saved

end Settings

end OpenerPolicy
