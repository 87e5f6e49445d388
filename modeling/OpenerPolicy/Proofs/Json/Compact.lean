/-
  File:      OpenerPolicy/Proofs/Json/Compact.lean
  Subject:   DOCUMENTS ON ONE LINE READ BACK.

  The only blanks of a document on one line are those after commas and colons. For plain values it is
  a written form of the value, so it reads back, and all of it is printable ASCII.

  * `Compacted` -- what the document of a value, of items and of members has to be;
    `Plain.compacted` -- it is that for plain values;
  * **`parse_compact`** -- reading the document of a plain value gives the value.
-/
import OpenerPolicy.Proofs.Json.Layout

namespace OpenerPolicy.Json

open OpenerPolicy.Text OpenerPolicy.Number

/-! ## 1. Written on one line -/

/-- The blanks of documents on one line. -/
def spacing : List Nat := [0x20]

theorem blanks_spacing : Blanks spacing spacing := fun _ hc => hc

/-- **The document on one line is a written form**: of a value; of items and members up to the closing
    sign. -/
def Compacted : Form → Prop
  | .value j => Written spacing (.value j) ((compactChars j).map Char.toNat)
  | .items l => l ≠ [] →
    Written spacing (.items l) ((compactItems l).map Char.toNat ++ [Sign.closeBracket])
  | .members l => l ≠ [] →
    Written spacing (.members l) ((compactMembers l).map Char.toNat ++ [Sign.closeBrace])

namespace Compacted

theorem list {l : List Json} (ih : Compacted (.items l)) : Compacted (.value (.list l)) := by
  cases l with
  | nil => exact Written.noItems (blanks_nil spacing)
  | cons j rest =>
    have hchars : (compactChars (.list (j :: rest))).map Char.toNat = Sign.openBracket ::
        ([] ++ ((compactItems (j :: rest)).map Char.toNat ++ [Sign.closeBracket])) := by
      rw [compactChars, List.cons_append, List.map_cons, List.map_append]
      rfl
    show Written _ _ _
    rw [hchars]
    exact Written.list (blanks_nil spacing) (ih (List.cons_ne_nil j rest))

theorem members {l : List (Text × Json)} (hnames : (l.map Prod.fst).Nodup)
    (ih : Compacted (.members l)) : Compacted (.value (.members l)) := by
  cases l with
  | nil => exact Written.noMembers (blanks_nil spacing)
  | cons field rest =>
    have hchars : (compactChars (.members (field :: rest))).map Char.toNat = Sign.openBrace ::
        ([] ++ ((compactMembers (field :: rest)).map Char.toNat ++ [Sign.closeBrace])) := by
      rw [compactChars, List.cons_append, List.map_cons, List.map_append]
      rfl
    show Written _ _ _
    rw [hchars]
    exact Written.members (blanks_nil spacing) hnames (ih (List.cons_ne_nil field rest))

theorem item {j : Json} {l : List Json} (ihj : Compacted (.value j)) (ih : Compacted (.items l)) :
    Compacted (.items (j :: l)) := by
  intro _
  cases l with
  | nil =>
    rw [compactItems]
    exact Written.lastItem ihj (blanks_nil spacing)
  | cons j' rest =>
    have hrest := ih (List.cons_ne_nil j' rest)
    have hchars : (compactItems (j :: j' :: rest)).map Char.toNat ++ [Sign.closeBracket]
        = (compactChars j).map Char.toNat ++ ([] ++ Sign.comma :: (spacing
          ++ ((compactItems (j' :: rest)).map Char.toNat ++ [Sign.closeBracket]))) := by
      rw [compactItems]
      · simp [spacing]
      · exact List.cons_ne_nil j' rest
    rw [hchars]
    exact Written.item ihj (blanks_nil spacing) blanks_spacing hrest

theorem member (name : String) {j : Json} {l : List (Text × Json)} (ihj : Compacted (.value j))
    (ih : Compacted (.members l)) : Compacted (.members ((.whole name, j) :: l)) := by
  intro _
  cases l with
  | nil =>
    have hchars : (compactMembers [(.whole name, j)]).map Char.toNat ++ [Sign.closeBrace]
        = named name [] spacing ((compactChars j).map Char.toNat ++ ([] ++ [Sign.closeBrace])) := by
      rw [compactMembers]
      simp [spacing, textChars_whole, named]
    rw [hchars]
    exact Written.lastMember name (blanks_nil spacing) blanks_spacing ihj (blanks_nil spacing)
  | cons field rest =>
    have hrest := ih (List.cons_ne_nil field rest)
    have hchars : (compactMembers ((.whole name, j) :: field :: rest)).map Char.toNat
          ++ [Sign.closeBrace]
        = named name [] spacing ((compactChars j).map Char.toNat ++ ([] ++ Sign.comma :: (spacing
          ++ ((compactMembers (field :: rest)).map Char.toNat ++ [Sign.closeBrace])))) := by
      rw [compactMembers]
      · simp [spacing, textChars_whole, named]
      · exact List.cons_ne_nil field rest
    rw [hchars]
    exact Written.member name (blanks_nil spacing) blanks_spacing ihj (blanks_nil spacing)
      blanks_spacing hrest

end Compacted

/-- **The document of plain values on one line is a written form of them.** -/
theorem Plain.compacted {form : Form} (h : Plain form) : Compacted form := by
  induction h with
  | null => exact Written.null
  | bool b =>
    cases b with
    | false => exact Written.bool false
    | true => exact Written.bool true
  | int n hn => exact Written.int n hn
  | text s =>
    show Written _ _ _
    rw [compactChars, textChars_whole s]
    exact Written.text s
  | list h ih => exact ih.list
  | members hnames h ih => exact ih.members hnames
  | noItems => exact fun hne => absurd rfl hne
  | item hj h ihj ih => exact ihj.item ih
  | noMembers => exact fun hne => absurd rfl hne
  | member name hj h ihj ih => exact ihj.member name ih

/-! ## 2. Reading it -/

/-- **The document of a plain value on one line reads back.** -/
theorem parse_compact {j : Json} (h : Plain (.value j)) : parse (points (compact j)) = .ok j := by
  have hwritten : Written spacing (.value j) (points (compact j)) := by
    rw [points, compact, String.toList_ofList]
    exact h.compacted
  have hread := parse_of_written (by decide) (blanks_nil spacing) hwritten (blanks_nil spacing)
  rwa [List.nil_append, List.append_nil] at hread

end OpenerPolicy.Json
