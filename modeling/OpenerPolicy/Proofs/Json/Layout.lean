/-
  File:      OpenerPolicy/Proofs/Json/Layout.lean
  Subject:   INDENTED DOCUMENTS READ BACK.

  A plain value has no doubles, no torn strings and no integer that is too long to be read, and no
  object of it has one name twice. Its indented document is a written form of it, so it reads back.

  * `Plain` -- plain values; `plain_items`, `plain_members_iff`, `plain_object` -- lists and objects of
    them;
  * `Indented` -- what the indented document of a value, of items and of members has to be;
    `Plain.indented` -- it is that for plain values;
  * **`parse_indented`** -- reading the document of a plain value gives the value;
  * `printable_indented`, `ne_return_of_printable` -- it is printable ASCII and line feeds.
-/
import OpenerPolicy.Proofs.Json.Grammar

namespace OpenerPolicy.Json

open OpenerPolicy.Text OpenerPolicy.Number

/-! ## 1. Plain values -/

/-- **Plain values**, and items and members that are plain: without doubles, torn strings, integers
    that are too long to be read, and objects with one name twice. -/
inductive Plain : Form → Prop
  | null : Plain (.value .null)
  | bool (b : Bool) : Plain (.value (.bool b))
  | int (n : Int) (h : (digits n.natAbs).length ≤ maxIntegerDigits) : Plain (.value (.int n))
  | text (s : String) : Plain (.value (.str s))
  | list {l : List Json} (h : Plain (.items l)) : Plain (.value (.list l))
  | members {l : List (Text × Json)} (hnames : (l.map Prod.fst).Nodup) (h : Plain (.members l)) :
    Plain (.value (.members l))
  | noItems : Plain (.items [])
  | item {j : Json} {l : List Json} (hj : Plain (.value j)) (h : Plain (.items l)) :
    Plain (.items (j :: l))
  | noMembers : Plain (.members [])
  | member (name : String) {j : Json} {l : List (Text × Json)} (hj : Plain (.value j))
    (h : Plain (.members l)) : Plain (.members ((.whole name, j) :: l))

theorem plain_items {l : List Json} (h : ∀ j ∈ l, Plain (.value j)) : Plain (.items l) := by
  induction l with
  | nil => exact Plain.noItems
  | cons j rest ih =>
    obtain ⟨hj, hrest⟩ := List.forall_mem_cons.1 h
    exact Plain.item hj (ih hrest)

theorem plain_members_iff {l : List (Text × Json)} :
    Plain (.members l) ↔ ∀ e ∈ l, (∃ name, e.1 = .whole name) ∧ Plain (.value e.2) := by
  induction l with
  | nil => exact ⟨fun _ e he => absurd he List.not_mem_nil, fun _ => .noMembers⟩
  | cons e rest ih =>
    rw [List.forall_mem_cons, ← ih]
    constructor
    · intro h
      cases h with
      | member name hj h => exact ⟨⟨⟨name, rfl⟩, hj⟩, h⟩
    · obtain ⟨k, j⟩ := e
      rintro ⟨⟨⟨name, rfl⟩, hj⟩, h⟩
      exact .member name hj h

/-- **An object with text for its names** is plain if its names differ and its values are plain. -/
theorem plain_object {fields : List (String × Json)} (hnames : (fields.map Prod.fst).Nodup)
    (h : ∀ field ∈ fields, Plain (.value field.2)) : Plain (.value (.object fields)) := by
  refine Plain.members ?_ ?_
  · have hmap : (fields.map fun field => (Text.whole field.1, field.2)).map Prod.fst
        = (fields.map Prod.fst).map Text.whole := by
      rw [List.map_map, List.map_map]
      rfl
    show ((fields.map fun field => (Text.whole field.1, field.2)).map Prod.fst).Nodup
    rw [hmap]
    exact List.pairwise_map.2 (hnames.imp fun hne heq => hne (Text.whole.inj heq))
  · clear hnames
    induction fields with
    | nil => exact Plain.noMembers
    | cons field rest ih =>
      obtain ⟨hfield, hrest⟩ := List.forall_mem_cons.1 h
      exact Plain.member field.1 hfield (ih hrest)

/-! ## 2. Indented documents -/

/-- The blanks of indented documents. -/
def indentation : List Nat := [0x20, 0x0A]

theorem isBlank_indentation : ∀ c ∈ indentation, isBlank c = true := by decide

/-- The blanks of a new line. -/
def lineBlanks (depth : Nat) : List Nat := (newLine depth).map Char.toNat

theorem blanks_lineBlanks (depth : Nat) : Blanks indentation (lineBlanks depth) := by
  intro c hc
  obtain ⟨d, hd, rfl⟩ := List.mem_map.1 hc
  rcases List.mem_cons.1 hd with rfl | hd
  · decide
  · obtain rfl := List.eq_of_mem_replicate hd
    decide

theorem blanks_nil (layout : List Nat) : Blanks layout [] :=
  fun _ hc => absurd hc List.not_mem_nil

theorem blanks_space : Blanks indentation [0x20] := by
  intro c hc
  obtain rfl := List.mem_singleton.1 hc
  decide

/-- **The indented document is a written form**: of a value, at every depth; of items and members
    from the first new line on, up to a closing sign after blanks. -/
def Indented : Form → Prop
  | .value j => ∀ depth, Written indentation (.value j) ((indentedChars depth j).map Char.toNat)
  | .items l => ∀ depth b, Blanks indentation b → l ≠ [] →
    ∃ s, (indentedItems depth l).map Char.toNat ++ (b ++ [Sign.closeBracket])
      = lineBlanks depth ++ s ∧ Written indentation (.items l) s
  | .members l => ∀ depth b, Blanks indentation b → l ≠ [] →
    ∃ s, (indentedMembers depth l).map Char.toNat ++ (b ++ [Sign.closeBrace])
      = lineBlanks depth ++ s ∧ Written indentation (.members l) s

namespace Indented

theorem list {l : List Json} (ih : Indented (.items l)) : Indented (.value (.list l)) := by
  intro depth
  cases l with
  | nil => exact Written.noItems (blanks_nil indentation)
  | cons j rest =>
    obtain ⟨s, hs, hitems⟩ := ih (depth + 1) (lineBlanks depth) (blanks_lineBlanks depth) nofun
    have hchars : (indentedChars depth (.list (j :: rest))).map Char.toNat
        = Sign.openBracket :: (lineBlanks (depth + 1) ++ s) := by
      rw [indentedChars, ← hs]
      simp [lineBlanks]
    rw [hchars]
    exact Written.list (blanks_lineBlanks (depth + 1)) hitems

theorem members {l : List (Text × Json)} (hnames : (l.map Prod.fst).Nodup)
    (ih : Indented (.members l)) : Indented (.value (.members l)) := by
  intro depth
  cases l with
  | nil => exact Written.noMembers (blanks_nil indentation)
  | cons field rest =>
    obtain ⟨s, hs, hfields⟩ := ih (depth + 1) (lineBlanks depth) (blanks_lineBlanks depth) nofun
    have hchars : (indentedChars depth (.members (field :: rest))).map Char.toNat
        = Sign.openBrace :: (lineBlanks (depth + 1) ++ s) := by
      rw [indentedChars, ← hs]
      simp [lineBlanks]
    rw [hchars]
    exact Written.members (blanks_lineBlanks (depth + 1)) hnames hfields

theorem item {j : Json} {l : List Json} (ihj : Indented (.value j)) (ih : Indented (.items l)) :
    Indented (.items (j :: l)) := by
  intro depth b hb _
  cases l with
  | nil =>
    refine ⟨_, ?_, Written.lastItem (ihj depth) hb⟩
    rw [indentedItems, List.map_append, List.append_assoc]
    rfl
  | cons j' rest =>
    -- the new line before the next item stands after the comma
    obtain ⟨s', hs', hitems⟩ := ih depth b hb (List.cons_ne_nil j' rest)
    refine ⟨_, ?_, Written.item (ihj depth) (blanks_nil indentation) (blanks_lineBlanks depth)
      hitems⟩
    rw [indentedItems, ← hs']
    · simp [lineBlanks]
    · exact List.cons_ne_nil j' rest

theorem member (name : String) {j : Json} {l : List (Text × Json)} (ihj : Indented (.value j))
    (ih : Indented (.members l)) : Indented (.members ((.whole name, j) :: l)) := by
  intro depth b hb _
  cases l with
  | nil =>
    refine ⟨_, ?_, Written.lastMember name (blanks_nil indentation) blanks_space (ihj depth) hb⟩
    rw [indentedMembers]
    simp [lineBlanks, textChars_whole, named]
  | cons field rest =>
    obtain ⟨s', hs', hfields⟩ := ih depth b hb (List.cons_ne_nil field rest)
    refine ⟨_, ?_, Written.member name (blanks_nil indentation) blanks_space (ihj depth)
      (blanks_nil indentation) (blanks_lineBlanks depth) hfields⟩
    rw [indentedMembers, ← hs']
    · simp [lineBlanks, textChars_whole, named]
    · exact List.cons_ne_nil field rest

end Indented

/-- **The indented document of plain values is a written form of them.** -/
theorem Plain.indented {form : Form} (h : Plain form) : Indented form := by
  induction h with
  | null => exact fun _ => Written.null
  | bool b =>
    cases b with
    | false => exact fun _ => Written.bool false
    | true => exact fun _ => Written.bool true
  | int n hn => exact fun _ => Written.int n hn
  | text s =>
    intro depth
    rw [indentedChars, textChars_whole s]
    exact Written.text s
  | list h ih => exact ih.list
  | members hnames h ih => exact ih.members hnames
  | noItems => exact fun _ _ _ hne => absurd rfl hne
  | item hj h ihj ih => exact ihj.item ih
  | noMembers => exact fun _ _ _ hne => absurd rfl hne
  | member name hj h ihj ih => exact ihj.member name ih

/-! ## 3. Reading them -/

/-- The document of a plain value is a written form of it. -/
theorem written_indented {j : Json} (h : Plain (.value j)) :
    Written indentation (.value j) (points (indented j)) := by
  rw [points, indented, String.toList_ofList]
  exact h.indented 0

/-- **The document of a plain value reads back**, with blanks after it or not. -/
theorem parse_indented {j : Json} (h : Plain (.value j)) {after : List Nat}
    (ha : Blanks indentation after) : parse (points (indented j) ++ after) = .ok j := by
  have hread := parse_of_written isBlank_indentation (blanks_nil indentation) (written_indented h) ha
  rwa [List.nil_append] at hread

/-- It is printable ASCII and line feeds. -/
theorem printable_indented {j : Json} (h : Plain (.value j)) :
    ∀ c ∈ points (indented j), IsPrintable c ∨ c = 0x0A := by
  intro c hc
  rcases (written_indented h).printable c hc with hprintable | hblank
  · exact Or.inl hprintable
  · rcases List.mem_cons.1 hblank with rfl | hfeed
    · exact Or.inl (by decide)
    · exact Or.inr (List.mem_singleton.1 hfeed)

/-- Its only ends of lines are line feeds. -/
theorem ne_return_of_printable {c : Nat} (h : IsPrintable c ∨ c = 0x0A) : c ≠ 0x0D := by
  rcases h with hprintable | rfl
  · rintro rfl
    exact absurd hprintable (by decide)
  · decide

end OpenerPolicy.Json
