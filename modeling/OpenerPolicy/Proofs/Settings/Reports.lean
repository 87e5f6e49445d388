/-
  File:      OpenerPolicy/Proofs/Settings/Reports.lean
  Subject:   CHECKS REPORT ALL THAT IS WRONG, AND NOTHING ELSE.

  The checks of records and lists are put together from checks of their parts. If the parts report what
  is wrong with them, so does the whole: no complaint is lost, none is made up, and they come in the
  order in which the members are declared and the items stand.

  * `Reports` -- an outcome reports what is wrong with a value, all of it, in order, each on one line;
  * `Reports.plain`, `Reports.items`, `Reports.required`, `Reports.optional`, `Reports.and`,
    `Reports.record` -- one lemma for each way in which a check is built;
  * **`Reports.places`** -- the places reported are those where something is wrong, each once.
-/
import OpenerPolicy.Proofs.Settings.Shape

namespace OpenerPolicy.Settings

/-! ## 1. Outcomes and their parts -/

namespace Checked

variable {α β : Type}

theorem issues_map (c : Checked α) (f : α → β) : Checked.issues (c.map f) = c.issues := by
  cases c <;> rfl

theorem issues_under (part : Part) (c : Checked α) :
    (c.under part).issues = c.issues.map fun i => ⟨part :: i.place, i.complaint⟩ := by
  cases c <;> rfl

theorem issues_and (a : Checked α) (b : Checked β) : (a.and b).issues = a.issues ++ b.issues := by
  cases a <;> cases b <;> simp [and, issues]

/-- The complaint of an outcome that has one at most. -/
def flaw? (c : Checked α) : Option Complaint := c.issues.head?.map Issue.complaint

theorem exists_map_eq_ok (c : Checked α) (f : α → β) :
    (∃ b, c.map f = .ok b) ↔ ∃ a, c = .ok a := by
  cases c with
  | ok a => exact ⟨fun _ => ⟨a, rfl⟩, fun _ => ⟨f a, rfl⟩⟩
  | error issues =>
    constructor
    · rintro ⟨b, h⟩
      cases h
    · rintro ⟨a, h⟩
      cases h

theorem exists_and_eq_ok (a : Checked α) (b : Checked β) :
    (∃ both, a.and b = .ok both) ↔ (∃ x, a = .ok x) ∧ ∃ y, b = .ok y := by
  simp only [Prod.exists, and_eq_ok_iff, exists_and_left, exists_and_right]

theorem exists_under_eq_ok (part : Part) (c : Checked α) :
    (∃ a, c.under part = .ok a) ↔ ∃ a, c = .ok a := by
  simp only [under_eq_ok_iff]

end Checked

/-- **A complaint that is printed on one line.** -/
def Issue.OnOneLine (i : Issue) : Prop :=
  (∀ part ∈ i.place, '\n' ∉ part.text.toList) ∧ '\n' ∉ i.complaint.message.toList

/-! ## 2. Outcomes that report what is wrong -/

/-- An outcome of a check of a value as a whole: it has one complaint at most. -/
def Plain {α : Type} (c : Checked α) : Prop :=
  (∃ a, c = .ok a) ∨ ∃ complaint, c = .fail complaint ∧ '\n' ∉ complaint.message.toList

theorem not_mem_index_text (index : Nat) : '\n' ∉ (Part.item index).text.toList := by
  intro hmem
  have htext : (Part.item index).text.toList = Nat.toDigits 10 index := Nat.toList_repr
  rw [htext] at hmem
  exact absurd (Nat.isDigit_of_mem_toDigits (by decide) (by decide) hmem) (by decide)

/-- **An outcome reports what is wrong with a value**: it is good exactly if the value fits, and else
    has everything that is wrong and nothing else, in order, each printed on one line; it never fails
    without a complaint. -/
structure Reports {α : Type} (s : Shape) (j : Json) (c : Checked α) : Prop where
  succeeds_iff : (∃ a, c = .ok a) ↔ s.Fits j
  explained : c.issues = [] → ∃ a, c = .ok a
  mem_iff : ∀ i, i ∈ c.issues ↔ s.Wrong j i.place i.complaint
  ordered : c.issues.Pairwise fun i i' => s.Before i.place i'.place
  onOneLine : ∀ i ∈ c.issues, i.OnOneLine

namespace Reports

variable {α β : Type} {s : Shape} {j : Json} {c : Checked α} {typeName : String}

protected theorem map (h : Reports s j c) (f : α → β) : Reports s j (c.map f : Checked β) where
  succeeds_iff := (Checked.exists_map_eq_ok c f).trans h.succeeds_iff
  explained hnone := by
    rw [Checked.issues_map] at hnone
    exact (Checked.exists_map_eq_ok c f).2 (h.explained hnone)
  mem_iff := by rw [Checked.issues_map]; exact h.mem_iff
  ordered := by rw [Checked.issues_map]; exact h.ordered
  onOneLine := by rw [Checked.issues_map]; exact h.onOneLine

/-! ### Plain values -/

/-- A value of which nothing but one thing can be said. -/
theorem of_fail {complaint : Complaint} (hc : c = .fail complaint) (hfits : ¬ s.Fits j)
    (hwrong : ∀ place c', s.Wrong j place c' ↔ place = [] ∧ c' = complaint)
    (hline : '\n' ∉ complaint.message.toList) : Reports s j c where
  succeeds_iff := by
    refine ⟨?_, fun h => absurd h hfits⟩
    rintro ⟨a, ha⟩
    cases ha.symm.trans hc
  explained hnone := by
    rw [hc] at hnone
    cases hnone
  mem_iff i := by
    have hissues : c.issues = [⟨[], complaint⟩] := by rw [hc]; rfl
    obtain ⟨place, c'⟩ := i
    rw [hissues, List.mem_singleton, Issue.mk.injEq, hwrong]
  ordered := by
    rw [hc]
    exact List.pairwise_singleton _ _
  onOneLine := by
    rw [hc]
    exact List.forall_mem_singleton.2 ⟨fun part hpart => absurd hpart List.not_mem_nil, hline⟩

/-- **A plain check** reports what is wrong with a value as a whole. -/
protected theorem plain {check : Json → Checked α} (h : Plain (check j)) :
    Reports (.plain fun j => (check j).flaw?) j (check j) := by
  rcases h with ⟨a, ha⟩ | ⟨complaint, hc, hline⟩
  · have hflaw : (check j).flaw? = none := by rw [ha]; rfl
    refine ⟨⟨fun _ => .plain hflaw, fun _ => ⟨a, ha⟩⟩, fun _ => ⟨a, ha⟩, fun i => ?_, ?_, ?_⟩
    · rw [ha, Shape.wrong_plain_iff, hflaw]
      exact ⟨fun hi => absurd hi List.not_mem_nil, fun hw => by cases hw.2⟩
    · rw [ha]
      exact List.Pairwise.nil
    · rw [ha]
      exact fun i hi => absurd hi List.not_mem_nil
  · have hflaw : (check j).flaw? = some complaint := by rw [hc]; rfl
    refine of_fail hc (fun hfits => ?_) (fun place c' => ?_) hline
    · cases hfits with
      | plain h => cases hflaw.symm.trans h
    · rw [Shape.wrong_plain_iff, hflaw, Option.some.injEq, eq_comm (a := complaint)]

/-! ### Lists -/

section Items

variable {check : Json → Checked α} {items : List Json}

theorem issues_checkFrom_cons (index : Nat) (item : Json) (rest : List Json) :
    (checkFrom check index (item :: rest)).issues
      = (check item).issues.map (fun i => ⟨.item index :: i.place, i.complaint⟩)
        ++ (checkFrom check (index + 1) rest).issues := by
  rw [checkFrom, Checked.issues_map, Checked.issues_and, Checked.issues_under]

/-- What is reported for items is wrong with one of them. -/
theorem mem_issues_checkFrom (h : ∀ j ∈ items, Reports s j (check j)) (index : Nat) (i : Issue) :
    i ∈ (checkFrom check index items).issues ↔ ∃ n j place, items[n]? = some j ∧
      i.place = .item (index + n) :: place ∧ s.Wrong j place i.complaint := by
  induction items generalizing index with
  | nil => simp [checkFrom, Checked.issues]
  | cons item rest ih =>
    obtain ⟨hitem, hrest⟩ := List.forall_mem_cons.1 h
    rw [issues_checkFrom_cons, List.mem_append, ih hrest (index + 1)]
    constructor
    · rintro (hi | ⟨n, j, place, hn, hplace, hw⟩)
      · obtain ⟨i', hi', rfl⟩ := List.mem_map.1 hi
        exact ⟨0, item, i'.place, rfl, rfl, (hitem.mem_iff i').1 hi'⟩
      · exact ⟨n + 1, j, place, hn, by rw [hplace, Nat.add_assoc, Nat.add_comm 1 n], hw⟩
    · rintro ⟨n, j, place, hn, hplace, hw⟩
      cases n with
      | zero =>
        obtain rfl := Option.some.inj hn
        refine Or.inl (List.mem_map.2 ⟨⟨place, i.complaint⟩, (hitem.mem_iff _).2 hw, ?_⟩)
        show Issue.mk (.item (index + 0) :: place) i.complaint = i
        rw [← hplace]
      | succ n =>
        exact Or.inr ⟨n, j, place, hn, by rw [hplace, Nat.add_assoc, Nat.add_comm 1 n], hw⟩

/-- Items are reported by their index. -/
theorem ordered_checkFrom (h : ∀ j ∈ items, Reports s j (check j)) (index : Nat) :
    (checkFrom check index items).issues.Pairwise
      fun i i' => (Shape.list s).Before i.place i'.place := by
  induction items generalizing index with
  | nil => exact List.Pairwise.nil
  | cons item rest ih =>
    obtain ⟨hitem, hrest⟩ := List.forall_mem_cons.1 h
    rw [issues_checkFrom_cons, List.pairwise_append]
    refine ⟨List.pairwise_map.2 (hitem.ordered.imp .item), ih hrest (index + 1), ?_⟩
    intro i hi i' hi'
    obtain ⟨first, -, rfl⟩ := List.mem_map.1 hi
    obtain ⟨n, -, place, -, hplace, -⟩ := (mem_issues_checkFrom hrest (index + 1) i').1 hi'
    rw [hplace]
    exact .items (by omega)

theorem onOneLine_checkFrom (h : ∀ j ∈ items, Reports s j (check j)) (index : Nat) :
    ∀ i ∈ (checkFrom check index items).issues, i.OnOneLine := by
  induction items generalizing index with
  | nil => exact fun i hi => absurd hi List.not_mem_nil
  | cons item rest ih =>
    obtain ⟨hitem, hrest⟩ := List.forall_mem_cons.1 h
    rw [issues_checkFrom_cons]
    refine List.forall_mem_append.2 ⟨fun i hi => ?_, ih hrest (index + 1)⟩
    obtain ⟨i', hi', rfl⟩ := List.mem_map.1 hi
    obtain ⟨hplace, hline⟩ := hitem.onOneLine i' hi'
    exact ⟨List.forall_mem_cons.2 ⟨not_mem_index_text index, hplace⟩, hline⟩

theorem exists_checkFrom_eq_ok (index : Nat) :
    (∃ l, checkFrom check index items = .ok l) ↔ ∀ j ∈ items, ∃ a, check j = .ok a := by
  induction items generalizing index with
  | nil => exact ⟨fun _ j hj => absurd hj List.not_mem_nil, fun _ => ⟨[], rfl⟩⟩
  | cons item rest ih =>
    rw [checkFrom, Checked.exists_map_eq_ok, Checked.exists_and_eq_ok, Checked.exists_under_eq_ok,
      ih (index + 1), List.forall_mem_cons]

theorem explained_checkFrom (h : ∀ j ∈ items, Reports s j (check j)) (index : Nat)
    (hnone : (checkFrom check index items).issues = []) : ∃ l, checkFrom check index items = .ok l := by
  rw [exists_checkFrom_eq_ok]
  induction items generalizing index with
  | nil => exact fun j hj => absurd hj List.not_mem_nil
  | cons item rest ih =>
    obtain ⟨hitem, hrest⟩ := List.forall_mem_cons.1 h
    rw [issues_checkFrom_cons, List.append_eq_nil_iff, List.map_eq_nil_iff] at hnone
    exact List.forall_mem_cons.2 ⟨hitem.explained hnone.1, ih hrest (index + 1) hnone.2⟩

/-- **A list** is checked item by item. -/
protected theorem items (h : ∀ j, Reports s j (check j)) (j : Json) :
    Reports (.list s) j (checkItems check j) := by
  have hother (hj : ∀ items, j ≠ .list items) (hcheck : checkItems check j = .fail .notAList) :
      Reports (.list s) j (checkItems check j) := by
    refine of_fail hcheck (fun hfits => ?_) (fun place c => ⟨fun hw => ?_, ?_⟩) (by decide)
    · cases hfits with
      | list _ => exact hj _ rfl
    · cases hw with
      | notAList _ => exact ⟨rfl, rfl⟩
      | item _ _ => exact absurd rfl (hj _)
    · rintro ⟨rfl, rfl⟩
      exact .notAList hj
  cases j with
  | list items =>
    have hall : ∀ j ∈ items, Reports s j (check j) := fun j _ => h j
    refine ⟨?_, explained_checkFrom hall 0, fun i => ?_, ordered_checkFrom hall 0,
      onOneLine_checkFrom hall 0⟩
    · rw [checkItems, exists_checkFrom_eq_ok]
      constructor
      · exact fun hok => .list fun j hj => (h j).succeeds_iff.1 (hok j hj)
      · intro hfits
        cases hfits with
        | list hfits => exact fun j hj => (h j).succeeds_iff.2 (hfits j hj)
    · rw [checkItems, mem_issues_checkFrom hall]
      obtain ⟨place, c⟩ := i
      constructor
      · rintro ⟨n, j, place, hn, rfl, hw⟩
        rw [Nat.zero_add]
        exact .item hn hw
      · intro hw
        cases hw with
        | notAList hj => exact absurd rfl (hj items)
        | item hn hw => exact ⟨_, _, _, hn, by rw [Nat.zero_add], hw⟩
  | _ => exact hother (fun items => by nofun) rfl

end Items

/-! ### Records -/

section Records

variable {fields : List (Json.Text × Json)} {name : String} {check : Json → Checked α}

/-- A member that is there is checked on its own. -/
theorem of_found {m : Declared Shape} {value : Json}
    (hfound : (Json.members fields).field? m.name = some value) (hname : '\n' ∉ m.name.toList)
    (h : Reports m.shape value c) :
    Reports (.record typeName [m]) (.members fields) (c.under (.member m.name)) where
  succeeds_iff := by
    rw [Checked.exists_under_eq_ok, h.succeeds_iff]
    constructor
    · intro hfits
      refine .record ?_ ?_
      · exact List.forall_mem_singleton.2 fun _ => by rw [hfound]; rfl
      · exact List.forall_mem_singleton.2 fun j hj => Option.some.inj (hfound.symm.trans hj) ▸ hfits
    · intro hfits
      cases hfits with
      | record _ h => exact h m List.mem_cons_self value hfound
  explained hnone := by
    rw [Checked.issues_under, List.map_eq_nil_iff] at hnone
    exact (Checked.exists_under_eq_ok _ c).2 (h.explained hnone)
  mem_iff i := by
    obtain ⟨place, complaint⟩ := i
    rw [Checked.issues_under, List.mem_map]
    constructor
    · rintro ⟨i, hi, heq⟩
      obtain ⟨rfl, rfl⟩ := Issue.mk.inj heq
      exact .member List.mem_cons_self hfound ((h.mem_iff i).1 hi)
    · intro hw
      cases hw with
      | notARecord hj => exact absurd rfl (hj fields)
      | missing hm _ hnone =>
        obtain rfl := List.mem_singleton.1 hm
        cases hfound.symm.trans hnone
      | member hm hj hw =>
        obtain rfl := List.mem_singleton.1 hm
        obtain rfl := Option.some.inj (hfound.symm.trans hj)
        exact ⟨⟨_, complaint⟩, (h.mem_iff _).2 hw, rfl⟩
  ordered := by
    rw [Checked.issues_under]
    exact List.pairwise_map.2 (h.ordered.imp fun hbefore => .member List.mem_cons_self hbefore)
  onOneLine := by
    rw [Checked.issues_under]
    intro i hi
    obtain ⟨i', hi', rfl⟩ := List.mem_map.1 hi
    obtain ⟨hplace, hline⟩ := h.onOneLine i' hi'
    exact ⟨List.forall_mem_cons.2 ⟨hname, hplace⟩, hline⟩

/-- **A member that has to be there.** -/
protected theorem required (hname : '\n' ∉ name.toList) (h : ∀ value, Reports s value (check value)) :
    Reports (.record typeName [⟨name, true, s⟩]) (.members fields)
      (required (.members fields) name check) := by
  unfold Settings.required
  cases hfield : (Json.members fields).field? name with
  | some value => exact of_found (m := ⟨name, true, s⟩) hfield hname (h value)
  | none =>
    refine ⟨⟨?_, fun hfits => ?_⟩, fun hnone => absurd hnone (List.cons_ne_nil _ _), fun i => ?_,
      List.pairwise_singleton _ _, ?_⟩
    · rintro ⟨a, ha⟩
      cases ha
    · cases hfits with
      | record hneeded _ =>
        have hthere := hneeded ⟨name, true, s⟩ List.mem_cons_self rfl
        rw [hfield] at hthere
        cases hthere
    · obtain ⟨place, complaint⟩ := i
      constructor
      · intro hi
        obtain ⟨rfl, rfl⟩ := Issue.mk.inj (List.mem_singleton.1 hi)
        exact .missing (m := ⟨name, true, s⟩) List.mem_cons_self rfl hfield
      · intro hw
        cases hw with
        | notARecord hj => exact absurd rfl (hj fields)
        | missing hm _ _ =>
          obtain rfl := List.mem_singleton.1 hm
          exact List.mem_singleton_self _
        | member hm hj _ =>
          obtain rfl := List.mem_singleton.1 hm
          cases hfield.symm.trans hj
    · refine List.forall_mem_singleton.2 ⟨List.forall_mem_singleton.2 hname, ?_⟩
      show '\n' ∉ Complaint.missing.message.toList
      decide

/-- **A member with a value to stand in for it.** -/
protected theorem optional (hname : '\n' ∉ name.toList) (absent : α)
    (h : ∀ value, Reports s value (check value)) :
    Reports (.record typeName [⟨name, false, s⟩]) (.members fields)
      (optional (.members fields) name absent check) := by
  unfold Settings.optional
  cases hfield : (Json.members fields).field? name with
  | some value => exact of_found (m := ⟨name, false, s⟩) hfield hname (h value)
  | none =>
    refine ⟨⟨fun _ => ?_, fun _ => ⟨absent, rfl⟩⟩, fun _ => ⟨absent, rfl⟩, fun i => ?_, .nil, ?_⟩
    · refine .record (List.forall_mem_singleton.2 fun hneeded => by cases hneeded) ?_
      exact List.forall_mem_singleton.2 fun j hj => by cases hfield.symm.trans hj
    · obtain ⟨place, complaint⟩ := i
      refine ⟨fun hi => absurd hi List.not_mem_nil, fun hw => ?_⟩
      cases hw with
      | notARecord hj => exact absurd rfl (hj fields)
      | missing hm hneeded _ =>
        obtain rfl := List.mem_singleton.1 hm
        cases hneeded
      | member hm hj _ =>
        obtain rfl := List.mem_singleton.1 hm
        cases hfield.symm.trans hj
    · exact fun i hi => absurd hi List.not_mem_nil

/-- **Members checked one after the other**: the complaints about the first one come first. -/
protected theorem and {m : Declared Shape} {ms : List (Declared Shape)} {d : Checked β}
    (hname : ∀ m' ∈ ms, m.name ≠ m'.name)
    (hc : Reports (.record typeName [m]) (.members fields) c)
    (hd : Reports (.record typeName ms) (.members fields) d) :
    Reports (.record typeName (m :: ms)) (.members fields) (c.and d) where
  succeeds_iff := by
    rw [Checked.exists_and_eq_ok, Shape.fits_cons, hc.succeeds_iff, hd.succeeds_iff]
  explained hnone := by
    rw [Checked.issues_and, List.append_eq_nil_iff] at hnone
    exact (Checked.exists_and_eq_ok c d).2 ⟨hc.explained hnone.1, hd.explained hnone.2⟩
  mem_iff i := by
    rw [Checked.issues_and, List.mem_append, Shape.wrong_cons, hc.mem_iff, hd.mem_iff]
  ordered := by
    rw [Checked.issues_and, List.pairwise_append]
    refine ⟨hc.ordered.imp fun h => h.mono (List.singleton_sublist.2 List.mem_cons_self),
      hd.ordered.imp fun h => h.mono (List.sublist_cons_self m ms), fun i hi i' hi' => ?_⟩
    obtain ⟨first, hm, rest, hplace⟩ := ((hc.mem_iff i).1 hi).exists_member
    obtain rfl := List.mem_singleton.1 hm
    obtain ⟨m', hm', rest', hplace'⟩ := ((hd.mem_iff i').1 hi').exists_member
    rw [hplace, hplace']
    exact .members ((List.singleton_sublist.2 hm').cons_cons first) (hname m' hm')
  onOneLine := by
    rw [Checked.issues_and]
    exact List.forall_mem_append.2 ⟨hc.onOneLine, hd.onOneLine⟩

/-- **A record** is an object whose members are checked. -/
protected theorem record {ms : List (Declared Shape)}
    (hline : '\n' ∉ (Complaint.notARecord typeName).message.toList)
    (h : ∀ fields, j = .members fields → Reports (.record typeName ms) j c) :
    Reports (.record typeName ms) j (record typeName j c) := by
  have hother (hj : ∀ fields, j ≠ .members fields)
      (hcheck : Settings.record typeName j c = .fail (.notARecord typeName)) :
      Reports (.record typeName ms) j (Settings.record typeName j c) := by
    refine of_fail hcheck (fun hfits => ?_) (fun place c => ⟨fun hw => ?_, ?_⟩) hline
    · cases hfits with
      | record _ _ => exact hj _ rfl
    · cases hw with
      | notARecord _ => exact ⟨rfl, rfl⟩
      | missing _ _ _ => exact absurd rfl (hj _)
      | member _ _ _ => exact absurd rfl (hj _)
    · rintro ⟨rfl, rfl⟩
      exact .notARecord hj
  cases j with
  | members fields => exact h fields rfl
  | _ => exact hother (fun fields => by nofun) rfl

end Records

/-! ## 3. The places reported -/

/-- **The places reported are those where something is wrong**, each once and in order. -/
theorem places (h : Reports s j c) :
    (∀ place, place ∈ c.issues.map Issue.place ↔ ∃ complaint, s.Wrong j place complaint) ∧
      (c.issues.map Issue.place).Pairwise s.Before ∧ (c.issues.map Issue.place).Nodup := by
  have hordered : (c.issues.map Issue.place).Pairwise s.Before := List.pairwise_map.2 h.ordered
  refine ⟨fun place => ⟨fun hplace => ?_, ?_⟩, hordered, hordered.imp Shape.Before.ne⟩
  · obtain ⟨i, hi, rfl⟩ := List.mem_map.1 hplace
    exact ⟨i.complaint, (h.mem_iff i).1 hi⟩
  · rintro ⟨complaint, hw⟩
    exact List.mem_map.2 ⟨⟨place, complaint⟩, (h.mem_iff _).2 hw, rfl⟩

end Reports

end OpenerPolicy.Settings
