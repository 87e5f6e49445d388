/-
  File:      OpenerPolicy/Proofs/Settings/Rearrangement.lean
  Subject:   THE ORDER OF MEMBERS, AND MEMBERS THAT ARE NOT DECLARED, MAKE NO DIFFERENCE.

  A value can be rearranged at every level at once: the members of a record in another order, members
  that are not declared added or taken out, and the same inside its declared members and its items.
  All that a check reads of a value is its core: the declared members, in the order in which they are
  declared. Rearranging leaves the core as it is, and a check gives the same for a value and its core.

  * `Shape.Rearranged` -- the changes, step by step;
  * `Shape.core` -- the core of a value; `core_eq_of_rearranged` -- it stays;
  * `Reads` -- a check reads no more than the core; `Reads.items`, `Reads.record`, `Reads.required`,
    `Reads.optional` -- so do checks that are put together;
  * **`Reads.eq_of_rearranged`** -- the outcome stays, whatever it is.
-/
import OpenerPolicy.Proofs.Settings.Shape

namespace OpenerPolicy.Settings

/-! ## 1. Rearranged values -/

/-- What can be seen of a value from outside: of a list or an object, that it is one. -/
def hollow : Json → Json
  | .list _ => .list []
  | .members _ => .members []
  | j => j

namespace Shape

/-- **A value rearranged**, by any number of changes at any level. Where a shape asks for something
    else than a list or an object, what is inside one can change in any way. -/
inductive Rearranged : Shape → Json → Json → Prop
  | refl (s : Shape) (j : Json) : Rearranged s j j
  | symm {s : Shape} {j j' : Json} (h : Rearranged s j j') : Rearranged s j' j
  | trans {s : Shape} {j j' j'' : Json} (h : Rearranged s j j') (h' : Rearranged s j' j'') :
    Rearranged s j j''
  /-- The members of a record in another order. -/
  | reorder {typeName : String} {ms : List (Declared Shape)} {fields fields' : List (Json.Text × Json)}
    (hnames : (fields.map Prod.fst).Nodup) (h : fields.Perm fields') :
    Rearranged (.record typeName ms) (.members fields) (.members fields')
  /-- A member that is not declared, anywhere among the others. -/
  | unknown {typeName : String} {ms : List (Declared Shape)} (fields fields' : List (Json.Text × Json))
    {name : Json.Text} (hname : ∀ m ∈ ms, name ≠ .whole m.name) (j : Json) :
    Rearranged (.record typeName ms) (.members (fields ++ fields'))
      (.members (fields ++ (name, j) :: fields'))
  /-- The value of a member, rearranged as the shapes of that name allow. -/
  | member {typeName : String} {ms : List (Declared Shape)} (fields fields' : List (Json.Text × Json))
    {name : String} {j j' : Json} (h : ∀ m ∈ ms, m.name = name → Rearranged m.shape j j') :
    Rearranged (.record typeName ms) (.members (fields ++ (.whole name, j) :: fields'))
      (.members (fields ++ (.whole name, j') :: fields'))
  /-- An item of a list. -/
  | item {s : Shape} (items items' : List Json) {j j' : Json} (h : Rearranged s j j') :
    Rearranged (.list s) (.list (items ++ j :: items')) (.list (items ++ j' :: items'))
  | insidePlain {flaw? : Json → Option Complaint} {j j' : Json} (h : hollow j = hollow j') :
    Rearranged (.plain flaw?) j j'
  | insteadOfList {s : Shape} (fields fields' : List (Json.Text × Json)) :
    Rearranged (.list s) (.members fields) (.members fields')
  | insteadOfRecord {typeName : String} {ms : List (Declared Shape)} (items items' : List Json) :
    Rearranged (.record typeName ms) (.list items) (.list items')

/-! ## 2. Cores -/

mutual

/-- **The core of a value**: what a check reads of it. -/
def core : Shape → Json → Json
  | .list s, .list items => .list (items.map s.core)
  | .record _ ms, .members fields => .members (coreMembers ms fields)
  | _, j => hollow j

/-- The declared members that are there, in the order in which they are declared. -/
def coreMembers : List (Declared Shape) → List (Json.Text × Json) → List (Json.Text × Json)
  | [], _ => []
  | ⟨name, _, s⟩ :: rest, fields =>
    match (Json.members fields).field? name with
    | some j => (.whole name, s.core j) :: coreMembers rest fields
    | none => coreMembers rest fields

end

theorem core_plain (flaw? : Json → Option Complaint) (j : Json) : core (.plain flaw?) j = hollow j := by
  cases j <;> rfl

section Members

variable {ms : List (Declared Shape)} {fields fields' : List (Json.Text × Json)}

theorem core_members_congr {typeName : String} (h : ∀ m ∈ ms, ((Json.members fields).field? m.name).map m.shape.core
      = ((Json.members fields').field? m.name).map m.shape.core) :
    core (.record typeName ms) (.members fields) = core (.record typeName ms) (.members fields') := by
  rw [core, core]
  congr 1
  induction ms with
  | nil => rfl
  | cons m rest ih =>
    obtain ⟨hm, hrest⟩ := List.forall_mem_cons.1 h
    rw [coreMembers, coreMembers, ih hrest]
    cases hj : (Json.members fields).field? m.name with
    | none =>
      rw [hj] at hm
      rw [Option.map_eq_none_iff.1 hm.symm]
    | some j =>
      rw [hj] at hm
      obtain ⟨j', hj', hcore⟩ := Option.map_eq_some_iff.1 hm.symm
      simp only [hj', hcore]

/-- **A declared member is in the core**, with the core of its value, if it is there at all. -/
theorem field?_core {m : Declared Shape} (hnames : (ms.map Declared.name).Nodup) (hm : m ∈ ms)
    (fields : List (Json.Text × Json)) :
    (Json.members (coreMembers ms fields)).field? m.name
      = ((Json.members fields).field? m.name).map m.shape.core := by
  have hother : ∀ rest : List (Declared Shape), (∀ m' ∈ rest, m'.name ≠ m.name) →
      (Json.members (coreMembers rest fields)).field? m.name = none := by
    intro rest hrest
    induction rest with
    | nil => rfl
    | cons m' rest ih =>
      obtain ⟨hne, hrest⟩ := List.forall_mem_cons.1 hrest
      rw [coreMembers]
      split
      · exact (if_neg fun heq => hne (Json.Text.whole.inj heq)).trans (ih hrest)
      · exact ih hrest
  induction ms with
  | nil => cases hm
  | cons m' rest ih =>
    obtain ⟨hnew, hrest⟩ := List.nodup_cons.1 hnames
    rw [coreMembers]
    rcases List.mem_cons.1 hm with rfl | hm
    · have hlater := hother rest fun m' hm' heq => hnew (heq ▸ List.mem_map_of_mem hm')
      split
      · next j hj => rw [hj]; exact if_pos rfl
      · next hj => rw [hj]; exact hlater
    · have hne : m'.name ≠ m.name := fun heq => hnew (heq ▸ List.mem_map_of_mem hm)
      split
      · exact (if_neg fun heq => hne (Json.Text.whole.inj heq)).trans (ih hrest hm)
      · exact ih hrest hm

end Members

theorem field?_append (fields fields' : List (Json.Text × Json)) (name : String) :
    (Json.members (fields ++ fields')).field? name
      = ((Json.members fields).field? name).or ((Json.members fields').field? name) :=
  Keyed.find?_append fields fields' (Json.Text.whole name)

theorem field?_cons (name' : Json.Text) (j : Json) (fields : List (Json.Text × Json)) (name : String) :
    (Json.members ((name', j) :: fields)).field? name
      = if name' = .whole name then some j else (Json.members fields).field? name := rfl

/-- **Rearranging leaves the core as it is.** -/
theorem core_eq_of_rearranged {s : Shape} {j j' : Json} (h : Rearranged s j j') :
    s.core j = s.core j' := by
  induction h with
  | refl s j => rfl
  | symm _ ih => exact ih.symm
  | trans _ _ ih ih' => exact ih.trans ih'
  | reorder hnames h =>
    refine core_members_congr fun m _ => ?_
    have hsame := Keyed.find?_of_perm h hnames (Json.Text.whole m.name)
    exact congrArg (Option.map m.shape.core) hsame
  | unknown fields fields' hname j =>
    refine core_members_congr fun m hm => congrArg (Option.map m.shape.core) ?_
    rw [field?_append, field?_append, field?_cons, if_neg (hname m hm)]
  | @member _ _ fields fields' name j j' h ih =>
    refine core_members_congr fun m hm => ?_
    rw [field?_append, field?_append, field?_cons, field?_cons]
    -- the first member of the name is another one, this one, or there is none
    cases (Json.members fields).field? m.name with
    | some first => rfl
    | none =>
      by_cases hname : name = m.name
      · subst hname
        rw [if_pos rfl, if_pos rfl]
        exact congrArg some (ih m hm rfl)
      · rw [if_neg fun heq => hname (Json.Text.whole.inj heq),
          if_neg fun heq => hname (Json.Text.whole.inj heq)]
  | item items items' _ ih =>
    rw [core, core, List.map_append, List.map_append, List.map_cons, List.map_cons, ih]
  | insidePlain h => rw [core_plain, core_plain, h]
  | insteadOfList fields fields' => rfl
  | insteadOfRecord items items' => rfl

end Shape

/-! ## 3. What checks read -/

/-- **A check reads no more of a value than its core.** -/
def Reads {α : Type} (s : Shape) (check : Json → Checked α) : Prop :=
  ∀ j, check (s.core j) = check j

section Reading

variable {α : Type} {s : Shape} {check : Json → Checked α}

namespace Reads

/-- **A check gives the same for a value and for the value rearranged.** -/
theorem eq_of_rearranged (h : Reads s check) {j j' : Json} (hr : s.Rearranged j j') :
    check j = check j' := by
  rw [← h j, ← h j', Shape.core_eq_of_rearranged hr]

protected theorem plain (flaw? : Json → Option Complaint) (h : ∀ j, check (hollow j) = check j) :
    Reads (.plain flaw?) check := by
  intro j
  rw [Shape.core_plain, h]

protected theorem items (h : Reads s check) : Reads (.list s) (checkItems check) := by
  have hitems (items : List Json) (index : Nat) :
      checkFrom check index (items.map s.core) = checkFrom check index items := by
    induction items generalizing index with
    | nil => rfl
    | cons item rest ih => rw [List.map_cons, checkFrom, checkFrom, h item, ih]
  intro j
  cases j with
  | list items => rw [Shape.core]; exact hitems items 0
  | _ => rfl

/-- A record is read through its declared members. -/
protected theorem record {typeName : String} {ms : List (Declared Shape)}
    {members : Json → Checked α}
    (h : ∀ fields, members (.members (Shape.coreMembers ms fields)) = members (.members fields)) :
    Reads (.record typeName ms) fun j => record typeName j (members j) := by
  intro j
  cases j with
  | members fields => rw [Shape.core]; exact h fields
  | _ => rfl

section Declared

variable {ms : List (Declared Shape)} {name : String}

/-- A declared member that has to be there is read as in the core. -/
protected theorem required (hnames : (ms.map Declared.name).Nodup) (hm : ⟨name, true, s⟩ ∈ ms)
    (h : Reads s check) (fields : List (Json.Text × Json)) :
    required (.members (Shape.coreMembers ms fields)) name check
      = required (.members fields) name check := by
  have hfield : (Json.members (Shape.coreMembers ms fields)).field? name
      = ((Json.members fields).field? name).map s.core := Shape.field?_core hnames hm fields
  unfold Settings.required
  rw [hfield]
  cases (Json.members fields).field? name with
  | none => rfl
  | some value => exact congrArg (Checked.under (.member name)) (h value)

/-- So is one with a value to stand in for it. -/
protected theorem optional (hnames : (ms.map Declared.name).Nodup) (hm : ⟨name, false, s⟩ ∈ ms)
    (absent : α) (h : Reads s check) (fields : List (Json.Text × Json)) :
    optional (.members (Shape.coreMembers ms fields)) name absent check
      = optional (.members fields) name absent check := by
  have hfield : (Json.members (Shape.coreMembers ms fields)).field? name
      = ((Json.members fields).field? name).map s.core := Shape.field?_core hnames hm fields
  unfold Settings.optional
  rw [hfield]
  cases (Json.members fields).field? name with
  | none => rfl
  | some value => exact congrArg (Checked.under (.member name)) (h value)

end Declared

end Reads

end Reading

end OpenerPolicy.Settings
