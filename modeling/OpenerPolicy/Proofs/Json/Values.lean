/-
  File:      OpenerPolicy/Proofs/Json/Values.lean
  Subject:   WHICH VALUES OF PROGRAMS CAN BE WRITTEN AS JSON.

  The members of a value are written one after the other, so they can be written exactly if each of
  them can: its key has a name, and its value a JSON form. A JSON value that is taken for a value of a
  program has itself for its JSON form, as long as its integers are not too long to be written.

  * `toJson_members_eq_ok_iff`, `toJsonMembers_cons_eq_ok_iff` -- the JSON form of members, one by one;
  * `Member.Writable`, `exists_toJsonMembers_iff` -- members can be written exactly if each of them can;
  * `ofJsonMembers_eq_map`, `field?_ofJson` -- the members of a JSON value;
  * **`toJson_ofJson`** -- a plain JSON value is its own JSON form.
-/
import OpenerPolicy.Proofs.Json.Layout
import OpenerPolicy.Proofs.Steps
import OpenerPolicy.Value

namespace OpenerPolicy

open Number

theorem decimal_of_le {n : Int} (h : (digitChars n.natAbs).length ≤ maxIntegerDigits) :
    decimal n = .ok (toString n) := if_neg (Nat.not_lt.2 h)

/-- A member that can be written: its key has a name, and its value a JSON form. -/
structure Member.Writable (e : Key × Value) : Prop where
  named : ∃ name, e.1.name = .ok name
  valued : ∃ j, e.2.toJson = .ok j

/-- Text under a name can be written. -/
theorem Member.writable_str (name text : String) :
    Member.Writable (.text (.whole name), .str text) := ⟨⟨_, rfl⟩, _, rfl⟩

namespace Value

/-! ## 1. Members that are written -/

theorem toJson_members_eq_ok_iff {fields : List (Key × Value)} {j : Json} :
    (Value.members fields).toJson = .ok j ↔ ∃ l, toJsonMembers fields = .ok l ∧ j = .members l := by
  rw [toJson]
  exact map_eq_ok_iff

theorem toJsonMembers_cons_eq_ok_iff {e : Key × Value} {rest : List (Key × Value)}
    {l : List (Json.Text × Json)} :
    toJsonMembers (e :: rest) = .ok l ↔
      ∃ name j more, e.1.name = .ok name ∧ e.2.toJson = .ok j ∧ toJsonMembers rest = .ok more ∧
        l = (name, j) :: more := by
  rw [toJsonMembers]
  constructor
  · intro h
    obtain ⟨name, hname, h⟩ := bind_eq_ok_iff.1 h
    obtain ⟨j, hj, h⟩ := bind_eq_ok_iff.1 h
    obtain ⟨more, hmore, h⟩ := bind_eq_ok_iff.1 h
    exact ⟨name, j, more, hname, hj, hmore, (Except.ok.inj h).symm⟩
  · rintro ⟨name, j, more, hname, hj, hmore, rfl⟩
    rw [hname, hj, hmore]
    rfl

/-- **Members can be written exactly if each of them can.** -/
theorem exists_toJsonMembers_iff {fields : List (Key × Value)} :
    (∃ l, toJsonMembers fields = .ok l) ↔ ∀ e ∈ fields, Member.Writable e := by
  induction fields with
  | nil => exact ⟨fun _ e he => absurd he List.not_mem_nil, fun _ => ⟨[], rfl⟩⟩
  | cons e rest ih =>
    rw [List.forall_mem_cons, ← ih]
    constructor
    · rintro ⟨l, hl⟩
      obtain ⟨name, j, more, hname, hj, hmore, -⟩ := toJsonMembers_cons_eq_ok_iff.1 hl
      exact ⟨⟨⟨name, hname⟩, j, hj⟩, more, hmore⟩
    · rintro ⟨⟨⟨name, hname⟩, j, hj⟩, more, hmore⟩
      exact ⟨_, toJsonMembers_cons_eq_ok_iff.2 ⟨name, j, more, hname, hj, hmore, rfl⟩⟩

theorem exists_toJson_members_iff {fields : List (Key × Value)} :
    (∃ j, (Value.members fields).toJson = .ok j) ↔ ∀ e ∈ fields, Member.Writable e := by
  rw [← exists_toJsonMembers_iff]
  constructor
  · rintro ⟨j, hj⟩
    obtain ⟨l, hl, -⟩ := toJson_members_eq_ok_iff.1 hj
    exact ⟨l, hl⟩
  · rintro ⟨l, hl⟩
    exact ⟨_, toJson_members_eq_ok_iff.2 ⟨l, hl, rfl⟩⟩

/-! ## 2. JSON values -/

theorem ofJsonMembers_eq_map (fields : List (Json.Text × Json)) :
    ofJsonMembers fields = fields.map fun e => (.text e.1, ofJson e.2) := by
  induction fields with
  | nil => rfl
  | cons e rest ih => rw [ofJsonMembers, ih, List.map_cons]

/-- The keys of different names are different. -/
theorem nodup_ofJsonMembers {fields : List (Json.Text × Json)} (h : (fields.map Prod.fst).Nodup) :
    ((ofJsonMembers fields).map Prod.fst).Nodup := by
  rw [ofJsonMembers_eq_map, List.map_map]
  exact List.pairwise_map.2 ((List.pairwise_map.1 h).imp fun hne heq => hne (Key.text.inj heq))

/-- The members of a JSON value are those of the value that it is taken for. -/
theorem field?_ofJson (fields : List (Json.Text × Json)) (name : String) :
    (ofJson (.members fields)).field? name = ((Json.members fields).field? name).map ofJson := by
  rw [ofJson, field?, member?, ofJsonMembers_eq_map, Json.field?]
  induction fields with
  | nil => rfl
  | cons e rest ih =>
    rw [List.map_cons, Keyed.find?, Keyed.find?, ih]
    by_cases he : e.1 = .whole name
    · rw [if_pos (congrArg Key.text he), if_pos he, Option.map_some]
    · rw [if_neg fun heq => he (Key.text.inj heq), if_neg he]

/-- What it is to be one's own JSON form: for values, for items and for members. -/
def IsOwnJson : Json.Form → Prop
  | .value j => (ofJson j).toJson = .ok j
  | .items l => toJsonItems (ofJsonItems l) = .ok l
  | .members l => toJsonMembers (ofJsonMembers l) = .ok l

theorem isOwnJson_of_plain {form : Json.Form} (h : Json.Plain form) : IsOwnJson form := by
  induction h with
  | null => rfl
  | bool b => rfl
  | int n hn =>
    rw [Json.digits, List.length_map] at hn
    show (decimal n).map _ = _
    rw [decimal_of_le hn]
    rfl
  | text s => rfl
  | list h ih =>
    show Json.list <$> toJsonItems _ = _
    rw [ih]
    rfl
  | members hnames h ih => exact toJson_members_eq_ok_iff.2 ⟨_, ih, rfl⟩
  | noItems => rfl
  | item hj h ihj ih =>
    show toJsonItems (ofJson _ :: ofJsonItems _) = _
    rw [toJsonItems, ihj, ih]
    rfl
  | noMembers => rfl
  | member name hj h ihj ih =>
    exact toJsonMembers_cons_eq_ok_iff.2 ⟨.whole name, _, _, rfl, ihj, ih, rfl⟩

/-- **A plain JSON value is its own JSON form.** -/
theorem toJson_ofJson {j : Json} (h : Json.Plain (.value j)) : (ofJson j).toJson = .ok j :=
  isOwnJson_of_plain h

end Value

end OpenerPolicy
