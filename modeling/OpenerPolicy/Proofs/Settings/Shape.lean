/-
  File:      OpenerPolicy/Proofs/Settings/Shape.lean
  Subject:   THE SHAPE OF A VALUE, AND WHAT IS WRONG WITH A VALUE AND WHERE.

  A check is a program; what it should find is said here without one. A shape tells which members a
  record declares, in order, and which of them are needed. A value fits a shape, or something is wrong
  with it at some places inside it; the places have an order of their own.

  * `Shape`, `Shape.Fits`, `Shape.Wrong` -- shapes, the values that fit, and what is wrong with the
    others;
  * `Shape.Before` -- the order of places: as declared, and then by index; `Before.ne` -- it is strict;
  * `fits_cons`, `wrong_cons`, `Before.mono` -- records member by member.
-/
import OpenerPolicy.Settings.Check

namespace OpenerPolicy.Settings

/-! ## 1. Shapes -/

/-- A member that a record declares; `σ` is what its value is described by. -/
structure Declared (σ : Type) where
  name : String
  needed : Bool
  shape : σ

/-- **The shape that a value should have.** -/
inductive Shape where
  /-- A value that is looked at as a whole, and what is wrong with it, if anything is. -/
  | plain (flaw? : Json → Option Complaint)
  | list (item : Shape)
  /-- An object; members that are not declared make no difference. -/
  | record (typeName : String) (members : List (Declared Shape))

namespace Shape

/-- **A value fits a shape.** In a record every declared member that is there fits on its own, and
    every member that is needed is there. -/
inductive Fits : Shape → Json → Prop
  | plain {flaw? : Json → Option Complaint} {j : Json} (h : flaw? j = none) : Fits (.plain flaw?) j
  | list {s : Shape} {items : List Json} (h : ∀ j ∈ items, Fits s j) : Fits (.list s) (.list items)
  | record {typeName : String} {members : List (Declared Shape)} {fields : List (Json.Text × Json)}
    (hneeded : ∀ m ∈ members, m.needed = true → ((Json.members fields).field? m.name).isSome = true)
    (h : ∀ m ∈ members, ∀ j, (Json.members fields).field? m.name = some j → Fits m.shape j) :
    Fits (.record typeName members) (.members fields)

/-- **Something is wrong with a value**, at a place in it. -/
inductive Wrong : Shape → Json → List Part → Complaint → Prop
  | plain {flaw? : Json → Option Complaint} {j : Json} {c : Complaint} (h : flaw? j = some c) :
    Wrong (.plain flaw?) j [] c
  | notAList {s : Shape} {j : Json} (h : ∀ items, j ≠ .list items) : Wrong (.list s) j [] .notAList
  | item {s : Shape} {items : List Json} {n : Nat} {j : Json} {place : List Part} {c : Complaint}
    (hn : items[n]? = some j) (h : Wrong s j place c) :
    Wrong (.list s) (.list items) (.item n :: place) c
  | notARecord {typeName : String} {members : List (Declared Shape)} {j : Json}
    (h : ∀ fields, j ≠ .members fields) :
    Wrong (.record typeName members) j [] (.notARecord typeName)
  | missing {typeName : String} {members : List (Declared Shape)} {fields : List (Json.Text × Json)}
    {m : Declared Shape} (hm : m ∈ members) (hneeded : m.needed = true)
    (h : (Json.members fields).field? m.name = none) :
    Wrong (.record typeName members) (.members fields) [.member m.name] .missing
  | member {typeName : String} {members : List (Declared Shape)} {fields : List (Json.Text × Json)}
    {m : Declared Shape} {j : Json} {place : List Part} {c : Complaint} (hm : m ∈ members)
    (hj : (Json.members fields).field? m.name = some j) (h : Wrong m.shape j place c) :
    Wrong (.record typeName members) (.members fields) (.member m.name :: place) c

/-- **The order of places**: members as they are declared, items by their index. -/
inductive Before : Shape → List Part → List Part → Prop
  | items {s : Shape} {n n' : Nat} {place place' : List Part} (h : n < n') :
    Before (.list s) (.item n :: place) (.item n' :: place')
  | item {s : Shape} {n : Nat} {place place' : List Part} (h : Before s place place') :
    Before (.list s) (.item n :: place) (.item n :: place')
  | members {typeName : String} {members : List (Declared Shape)} {m m' : Declared Shape}
    {place place' : List Part} (h : [m, m'].Sublist members) (hne : m.name ≠ m'.name) :
    Before (.record typeName members) (.member m.name :: place) (.member m'.name :: place')
  | member {typeName : String} {members : List (Declared Shape)} {m : Declared Shape}
    {place place' : List Part} (hm : m ∈ members) (h : Before m.shape place place') :
    Before (.record typeName members) (.member m.name :: place) (.member m.name :: place')

/-- No place stands before itself. -/
theorem Before.ne {s : Shape} {place place' : List Part} (h : Before s place place') :
    place ≠ place' := by
  induction h with
  | items h => exact fun heq => Nat.ne_of_lt h (Part.item.inj (List.cons.inj heq).1)
  | item _ ih => exact fun heq => ih (List.cons.inj heq).2
  | members _ hne => exact fun heq => hne (Part.member.inj (List.cons.inj heq).1)
  | member _ _ ih => exact fun heq => ih (List.cons.inj heq).2

theorem wrong_plain_iff {flaw? : Json → Option Complaint} {j : Json} {place : List Part}
    {c : Complaint} : Wrong (.plain flaw?) j place c ↔ place = [] ∧ flaw? j = some c := by
  constructor
  · rintro ⟨h⟩
    exact ⟨rfl, h⟩
  · rintro ⟨rfl, h⟩
    exact .plain h

theorem fits_record_iff {typeName : String} {ms : List (Declared Shape)} {j : Json} :
    Fits (.record typeName ms) j ↔ ∃ fields, j = .members fields ∧ ∀ m ∈ ms,
      (m.needed = true → j.field? m.name ≠ none) ∧ ∀ value, j.field? m.name = some value →
        Fits m.shape value := by
  constructor
  · intro hfits
    cases hfits with
    | record hneeded h =>
      exact ⟨_, rfl, fun m hm => ⟨fun hn => Option.isSome_iff_ne_none.1 (hneeded m hm hn), h m hm⟩⟩
  · rintro ⟨fields, rfl, h⟩
    exact .record (fun m hm hn => Option.isSome_iff_ne_none.2 ((h m hm).1 hn)) fun m hm => (h m hm).2

section Members

variable {typeName : String} {m : Declared Shape} {ms ms' : List (Declared Shape)}
  {fields : List (Json.Text × Json)} {place place' : List Part} {c : Complaint}

theorem fits_cons : Fits (.record typeName (m :: ms)) (.members fields) ↔
    Fits (.record typeName [m]) (.members fields) ∧ Fits (.record typeName ms) (.members fields) := by
  constructor
  · intro h
    cases h with
    | record hneeded h =>
      obtain ⟨hneeded, hneeded'⟩ := List.forall_mem_cons.1 hneeded
      obtain ⟨h, h'⟩ := List.forall_mem_cons.1 h
      exact ⟨.record (List.forall_mem_singleton.2 hneeded) (List.forall_mem_singleton.2 h),
        .record hneeded' h'⟩
  · rintro ⟨h, h'⟩
    cases h with
    | record hneeded h =>
      cases h' with
      | record hneeded' h' =>
        refine .record (List.forall_mem_cons.2 ⟨?_, hneeded'⟩) (List.forall_mem_cons.2 ⟨?_, h'⟩)
        · exact List.forall_mem_singleton.1 hneeded
        · exact List.forall_mem_singleton.1 h

theorem Wrong.mono (h : Wrong (.record typeName ms) (.members fields) place c)
    (hsub : ∀ m ∈ ms, m ∈ ms') : Wrong (.record typeName ms') (.members fields) place c := by
  cases h with
  | notARecord h => exact .notARecord h
  | missing hm hneeded h => exact .missing (hsub _ hm) hneeded h
  | member hm hj h => exact .member (hsub _ hm) hj h

theorem wrong_cons : Wrong (.record typeName (m :: ms)) (.members fields) place c ↔
    Wrong (.record typeName [m]) (.members fields) place c ∨
      Wrong (.record typeName ms) (.members fields) place c := by
  constructor
  · intro h
    cases h with
    | notARecord h => exact absurd rfl (h fields)
    | missing hm hneeded h =>
      refine (List.mem_cons.1 hm).imp (fun hm => ?_) fun hm => .missing hm hneeded h
      exact .missing (List.mem_singleton.2 hm) hneeded h
    | member hm hj h =>
      refine (List.mem_cons.1 hm).imp (fun hm => ?_) fun hm => .member hm hj h
      exact .member (List.mem_singleton.2 hm) hj h
  · rintro (h | h)
    · exact h.mono (List.forall_mem_singleton.2 List.mem_cons_self)
    · exact h.mono fun m' hm => List.mem_cons_of_mem m hm

theorem Before.mono (h : Before (.record typeName ms) place place') (hsub : ms.Sublist ms') :
    Before (.record typeName ms') place place' := by
  cases h with
  | members h hne => exact .members (h.trans hsub) hne
  | member hm h => exact .member (hsub.subset hm) h

/-- What is wrong with a record is wrong with one of its members. -/
theorem Wrong.exists_member (h : Wrong (.record typeName ms) (.members fields) place c) :
    ∃ m ∈ ms, ∃ rest, place = .member m.name :: rest := by
  cases h with
  | notARecord h => exact absurd rfl (h fields)
  | missing hm => exact ⟨_, hm, [], rfl⟩
  | member hm => exact ⟨_, hm, _, rfl⟩

end Members

end Shape

end OpenerPolicy.Settings
