/-
  File:      OpenerPolicy/Proofs/Json/Grammar.lean
  Subject:   THE WRITTEN FORMS OF VALUES, AND THAT THEY READ BACK.

  A value can be written in several ways, which differ in the blanks alone. Here the written forms
  are described by rules, one for each kind of value and one for each place inside brackets and
  braces; the reader gets the value back from every one of them, whatever follows it.

  * `Written` -- the written forms of values, of items and of members, with the blanks of a layout;
  * `Written.head` -- a written form starts with neither a blank nor a closing sign;
  * `scanValue_list`, `scanValue_members`, `scanValue_number`, `scanItems_cons`, `scanMembers_cons`
    -- one step of the reader, each under what it finds;
  * **`Written.reads`** -- every written form reads back, with fuel for twice its length;
  * **`parse_of_written`** -- a document that is a written form with blanks around it;
  * `Written.printable` -- all other characters are printable ASCII.
-/
import OpenerPolicy.Proofs.Json.Integers

namespace OpenerPolicy

namespace Keyed

variable {κ α : Type} [DecidableEq κ]

/-- **Entries whose keys differ** are what they are put together to. -/
theorem ofList_eq_self {l : Keyed κ α} (h : l.keys.Nodup) : ofList l = l := by
  have go : ∀ rest done : Keyed κ α, (keys (done ++ rest)).Nodup →
      rest.foldl (fun l e => put l e.1 e.2) done = done ++ rest := by
    intro rest
    induction rest with
    | nil => exact fun done _ => (List.append_nil done).symm
    | cons e more ih =>
      intro done hnodup
      have hnew : e.1 ∉ keys done := by
        rw [keys, List.map_append, List.map_cons] at hnodup
        exact fun hmem => (List.nodup_append.1 hnodup).2.2 e.1 hmem e.1 List.mem_cons_self rfl
      rw [List.foldl_cons, put_eq_append hnew, ih _ (by rw [List.append_assoc]; exact hnodup),
        List.append_assoc]
      rfl
  exact go l [] h

end Keyed

namespace Json

open OpenerPolicy.Text OpenerPolicy.Number

/-! ## 1. Written forms -/

/-- What a written form is of: a value; items or members, up to and with the closing sign. -/
inductive Form where
  | value (j : Json)
  | items (l : List Json)
  | members (l : List (Text × Json))

/-- Only blanks of a layout. -/
def Blanks (layout s : List Nat) : Prop := ∀ c ∈ s, c ∈ layout

/-- The name of a member, a colon and what follows it, with blanks before and after the colon. -/
def named (name : String) (before after rest : List Nat) : List Nat :=
  Sign.quote :: (inner name ++ Sign.quote :: (before ++ Sign.colon :: (after ++ rest)))

/-- **The written forms**, with blanks of a layout between the signs. Strings and integers are
    written in one way; the names of members are text, and no two of them are the same. -/
inductive Written (layout : List Nat) : Form → List Nat → Prop
  | null : Written layout (.value .null) (points "null")
  | bool (b : Bool) : Written layout (.value (.bool b)) (points (if b then "true" else "false"))
  | int (n : Int) (h : (digits n.natAbs).length ≤ maxIntegerDigits) :
    Written layout (.value (.int n)) ((intChars n).map Char.toNat)
  | text (s : String) : Written layout (.value (.str s)) (Sign.quote :: (inner s ++ [Sign.quote]))
  | noItems {b : List Nat} (hb : Blanks layout b) :
    Written layout (.value (.list [])) (Sign.openBracket :: (b ++ [Sign.closeBracket]))
  | list {b s : List Nat} {l : List Json} (hb : Blanks layout b) (h : Written layout (.items l) s) :
    Written layout (.value (.list l)) (Sign.openBracket :: (b ++ s))
  | noMembers {b : List Nat} (hb : Blanks layout b) :
    Written layout (.value (.members [])) (Sign.openBrace :: (b ++ [Sign.closeBrace]))
  | members {b s : List Nat} {l : List (Text × Json)} (hb : Blanks layout b)
    (hnames : (l.map Prod.fst).Nodup) (h : Written layout (.members l) s) :
    Written layout (.value (.members l)) (Sign.openBrace :: (b ++ s))
  | lastItem {b s : List Nat} {j : Json} (h : Written layout (.value j) s) (hb : Blanks layout b) :
    Written layout (.items [j]) (s ++ (b ++ [Sign.closeBracket]))
  | item {b b' s s' : List Nat} {j : Json} {l : List Json} (h : Written layout (.value j) s)
    (hb : Blanks layout b) (hb' : Blanks layout b') (hl : Written layout (.items l) s') :
    Written layout (.items (j :: l)) (s ++ (b ++ Sign.comma :: (b' ++ s')))
  | lastMember {b b' b'' s : List Nat} {j : Json} (name : String) (hb : Blanks layout b)
    (hb' : Blanks layout b') (h : Written layout (.value j) s) (hb'' : Blanks layout b'') :
    Written layout (.members [(.whole name, j)])
      (named name b b' (s ++ (b'' ++ [Sign.closeBrace])))
  | member {b b' b'' b₃ s s' : List Nat} {j : Json} {l : List (Text × Json)} (name : String)
    (hb : Blanks layout b) (hb' : Blanks layout b') (h : Written layout (.value j) s)
    (hb'' : Blanks layout b'') (hb₃ : Blanks layout b₃) (hl : Written layout (.members l) s') :
    Written layout (.members ((.whole name, j) :: l))
      (named name b b' (s ++ (b'' ++ Sign.comma :: (b₃ ++ s'))))

/-! ## 2. Blanks -/

section Skipping

variable {layout : List Nat}

/-- Blanks before something else are skipped. -/
theorem skipBlank_append (hlayout : ∀ c ∈ layout, isBlank c = true) {b : List Nat}
    (hb : Blanks layout b) {c : Nat} (hc : isBlank c = false) (rest : List Nat) :
    skipBlank (b ++ c :: rest) = c :: rest := by
  have hall : ∀ x ∈ b, isBlank x = true := fun x hx => hlayout x (hb x hx)
  rw [skipBlank, List.dropWhile_append_of_pos hall, List.dropWhile_cons, hc]
  rfl

/-- **A written form starts with neither a blank nor a closing sign.** -/
theorem Written.head {form : Form} {s : List Nat} (h : Written layout form s) :
    ∃ c more, s = c :: more ∧ isBlank c = false ∧ c ≠ Sign.closeBracket ∧ c ≠ Sign.closeBrace := by
  induction h with
  | null => exact ⟨_, _, rfl, by decide, by decide, by decide⟩
  | bool b =>
    cases b with
    | false => exact ⟨_, _, rfl, by decide, by decide, by decide⟩
    | true => exact ⟨_, _, rfl, by decide, by decide, by decide⟩
  | int n hn =>
    obtain ⟨c, more, hc, hsign⟩ := intChars_eq_cons n
    have hstart : isBlank c = false ∧ c ≠ Sign.closeBracket ∧ c ≠ Sign.closeBrace := by
      unfold isBlank
      rcases hsign with hdigit | rfl
      · unfold isDigit at hdigit
        grind
      · decide
    exact ⟨c, more, hc, hstart⟩
  | text s => exact ⟨_, _, rfl, by decide, by decide, by decide⟩
  | noItems hb => exact ⟨_, _, rfl, by decide, by decide, by decide⟩
  | list hb h ih => exact ⟨_, _, rfl, by decide, by decide, by decide⟩
  | noMembers hb => exact ⟨_, _, rfl, by decide, by decide, by decide⟩
  | members hb hnames h ih => exact ⟨_, _, rfl, by decide, by decide, by decide⟩
  | lastItem h hb ih =>
    obtain ⟨c, more, rfl, hc⟩ := ih
    exact ⟨c, _, rfl, hc⟩
  | item h hb hb' hl ih ihl =>
    obtain ⟨c, more, rfl, hc⟩ := ih
    exact ⟨c, _, rfl, hc⟩
  | lastMember name hb hb' h hb'' ih => exact ⟨_, _, rfl, by decide, by decide, by decide⟩
  | member name hb hb' h hb'' hb₃ hl ih ihl => exact ⟨_, _, rfl, by decide, by decide, by decide⟩

end Skipping

/-! ## 3. Steps of the reader -/

section Steps

variable {fuel c : Nat} {s more rest after : List Nat}

theorem scanValue_text (fuel : Nat) (name : String) (rest : List Nat) :
    scanValue (fuel + 1) (Sign.quote :: (inner name ++ Sign.quote :: rest))
      = .ok (.str name, rest) := by
  rw [scanValue, scanText_inner]
  rfl

/-- A list of at least one item. -/
theorem scanValue_list (hskip : skipBlank s = c :: more) (hc : c ≠ Sign.closeBracket) {l : List Json}
    (h : scanItems fuel (c :: more) = .ok (l, after)) :
    scanValue (fuel + 1) (Sign.openBracket :: s) = .ok (.list l, after) := by
  rw [scanValue, hskip]
  split
  · next hclose => exact absurd (List.cons.inj hclose).1 hc
  · rw [h]
    rfl

/-- An object of at least one member. -/
theorem scanValue_members (hskip : skipBlank s = c :: more) (hc : c ≠ Sign.closeBrace)
    {l : List (Text × Json)} (h : scanMembers fuel (c :: more) = .ok (l, after)) :
    scanValue (fuel + 1) (Sign.openBrace :: s) = .ok (.members (Keyed.ofList l), after) := by
  rw [scanValue, hskip]
  split
  · next hclose => exact absurd (List.cons.inj hclose).1 hc
  · rw [h]
    rfl

theorem scanItems_last {j : Json} (hj : scanValue fuel s = .ok (j, after))
    (hskip : skipBlank after = Sign.closeBracket :: rest) :
    scanItems (fuel + 1) s = .ok ([j], rest) := by
  rw [scanItems, hj]
  simp only [bind, Except.bind, hskip]

theorem scanItems_cons {j : Json} {l : List Json} (hj : scanValue fuel s = .ok (j, after))
    (hskip : skipBlank after = Sign.comma :: more)
    (hl : scanItems fuel (skipBlank more) = .ok (l, rest)) :
    scanItems (fuel + 1) s = .ok (j :: l, rest) := by
  rw [scanItems, hj]
  simp only [bind, Except.bind, hskip, hl]
  rfl

theorem scanMembers_last {j : Json} (name : String) {beforeColon beforeValue : List Nat}
    (hcolon : skipBlank beforeColon = Sign.colon :: beforeValue)
    (hj : scanValue fuel (skipBlank beforeValue) = .ok (j, after))
    (hskip : skipBlank after = Sign.closeBrace :: rest) :
    scanMembers (fuel + 1) (Sign.quote :: (inner name ++ Sign.quote :: beforeColon))
      = .ok ([(.whole name, j)], rest) := by
  rw [scanMembers, scanText_inner]
  simp only [bind, Except.bind, hcolon, hj, hskip]

theorem scanMembers_cons {j : Json} {l : List (Text × Json)} (name : String)
    {beforeColon beforeValue : List Nat}
    (hcolon : skipBlank beforeColon = Sign.colon :: beforeValue)
    (hj : scanValue fuel (skipBlank beforeValue) = .ok (j, after))
    (hskip : skipBlank after = Sign.comma :: more)
    (hl : scanMembers fuel (skipBlank more) = .ok (l, rest)) :
    scanMembers (fuel + 1) (Sign.quote :: (inner name ++ Sign.quote :: beforeColon))
      = .ok ((.whole name, j) :: l, rest) := by
  rw [scanMembers, scanText_inner]
  simp only [bind, Except.bind, hcolon, hj, hskip, hl]
  rfl

/-- **A number**: what is no string, list or object, and no word. -/
theorem scanValue_number (hquote : c ≠ Sign.quote) (hbracket : c ≠ Sign.openBracket)
    (hbrace : c ≠ Sign.openBrace) (hword : scanWord (c :: s) = none)
    {read : Except ScanFault (Json × List Nat)} (hnumber : scanNumber (c :: s) = some read) :
    scanValue (fuel + 1) (c :: s) = read := by
  rw [scanValue]
  · simp only [hword, hnumber, Option.getD_some]
  · exact fun _ h => hquote (List.cons.inj h).1
  · exact fun _ h => hbracket (List.cons.inj h).1
  · exact fun _ h => hbrace (List.cons.inj h).1

end Steps

/-! ## 4. Reading -/

/-- **Reading gives it back**, whatever follows, as long as a number ends there. -/
def Reads : Form → List Nat → Prop
  | .value j, s => ∀ fuel rest, 2 * s.length ≤ fuel → Ends rest →
    scanValue fuel (s ++ rest) = .ok (j, rest)
  | .items l, s => ∀ fuel rest, 2 * s.length < fuel → scanItems fuel (s ++ rest) = .ok (l, rest)
  | .members l, s => ∀ fuel rest, 2 * s.length < fuel →
    scanMembers fuel (s ++ rest) = .ok (l, rest)

section Reading

variable {layout b s : List Nat}

theorem ends_cons {c : Nat}
    (hc : isDigit c = false ∧ c ≠ Sign.point ∧ c ≠ 'e'.toNat ∧ c ≠ 'E'.toNat) (rest : List Nat) :
    Ends (c :: rest) := hc

/-- Blanks end a number. -/
theorem ends_append (hlayout : ∀ c ∈ layout, isBlank c = true) (hb : Blanks layout b)
    {rest : List Nat} (h : Ends rest) : Ends (b ++ rest) := by
  cases b with
  | nil => exact h
  | cons c more =>
    have hc : isBlank c = true := hlayout c (hb c List.mem_cons_self)
    show isDigit c = false ∧ c ≠ Sign.point ∧ c ≠ 'e'.toNat ∧ c ≠ 'E'.toNat
    unfold isBlank at hc
    unfold isDigit
    grind

/-- After blanks the reader stands at the start of a written form. -/
theorem skipBlank_written (hlayout : ∀ c ∈ layout, isBlank c = true) (hb : Blanks layout b)
    {form : Form} (h : Written layout form s) (rest : List Nat) :
    skipBlank (b ++ (s ++ rest)) = s ++ rest := by
  obtain ⟨c, more, rfl, hblank, -⟩ := h.head
  exact skipBlank_append hlayout hb hblank (more ++ rest)

namespace Reads

/-- What is read without reading parts of it needs no more than one unit of fuel. -/
theorem of_succ {j : Json} (hs : s ≠ [])
    (h : ∀ fuel rest, Ends rest → scanValue (fuel + 1) (s ++ rest) = .ok (j, rest)) :
    Reads (.value j) s := by
  intro fuel rest hfuel hends
  have hlength : 0 < s.length := List.length_pos_iff.2 hs
  obtain ⟨k, rfl⟩ : ∃ k, fuel = k + 1 := ⟨fuel - 1, by omega⟩
  exact h k rest hends

theorem int {n : Int} (hn : (digits n.natAbs).length ≤ maxIntegerDigits) :
    Reads (.value (.int n)) ((intChars n).map Char.toNat) := by
  obtain ⟨c, more, hc, hsign⟩ := intChars_eq_cons n
  have hother : c ≠ Sign.quote ∧ c ≠ Sign.openBracket ∧ c ≠ Sign.openBrace := by
    rcases hsign with hdigit | rfl
    · unfold isDigit at hdigit
      grind
    · decide
  refine of_succ (by rw [hc]; nofun) fun fuel rest hends => ?_
  have hword := scanWord_intChars n rest
  have hnumber := scanNumber_intChars hends hn
  rw [hc, List.cons_append] at hword hnumber ⊢
  exact scanValue_number hother.1 hother.2.1 hother.2.2 hword hnumber

theorem text (name : String) :
    Reads (.value (.str name)) (Sign.quote :: (inner name ++ [Sign.quote])) := by
  refine of_succ nofun fun fuel rest _ => ?_
  rw [List.cons_append, List.append_assoc]
  exact scanValue_text fuel name rest

variable (hlayout : ∀ c ∈ layout, isBlank c = true)

include hlayout

theorem noItems (hb : Blanks layout b) :
    Reads (.value (.list [])) (Sign.openBracket :: (b ++ [Sign.closeBracket])) := by
  refine of_succ nofun fun fuel rest _ => ?_
  have hskip : skipBlank (b ++ Sign.closeBracket :: rest) = Sign.closeBracket :: rest :=
    skipBlank_append hlayout hb (by decide) rest
  rw [List.cons_append, List.append_assoc, List.singleton_append, scanValue, hskip]
  rfl

theorem noMembers (hb : Blanks layout b) :
    Reads (.value (.members [])) (Sign.openBrace :: (b ++ [Sign.closeBrace])) := by
  refine of_succ nofun fun fuel rest _ => ?_
  have hskip : skipBlank (b ++ Sign.closeBrace :: rest) = Sign.closeBrace :: rest :=
    skipBlank_append hlayout hb (by decide) rest
  rw [List.cons_append, List.append_assoc, List.singleton_append, scanValue, hskip]
  rfl

theorem list {l : List Json} (hb : Blanks layout b) (h : Written layout (.items l) s)
    (ih : Reads (.items l) s) : Reads (.value (.list l)) (Sign.openBracket :: (b ++ s)) := by
  intro fuel rest hfuel _
  rw [List.length_cons, List.length_append] at hfuel
  obtain ⟨k, rfl⟩ : ∃ k, fuel = k + 1 := ⟨fuel - 1, by omega⟩
  have hitems := ih k rest (by omega)
  have hskip := skipBlank_written hlayout hb h rest
  rw [List.cons_append, List.append_assoc]
  -- its first item does not start with the closing sign, so the list is not taken to be empty
  obtain ⟨c, more, rfl, -, hc, -⟩ := h.head
  exact scanValue_list hskip hc hitems

theorem members {l : List (Text × Json)} (hb : Blanks layout b) (hnames : (l.map Prod.fst).Nodup)
    (h : Written layout (.members l) s) (ih : Reads (.members l) s) :
    Reads (.value (.members l)) (Sign.openBrace :: (b ++ s)) := by
  intro fuel rest hfuel _
  rw [List.length_cons, List.length_append] at hfuel
  obtain ⟨k, rfl⟩ : ∃ k, fuel = k + 1 := ⟨fuel - 1, by omega⟩
  have hfields := ih k rest (by omega)
  have hskip := skipBlank_written hlayout hb h rest
  rw [List.cons_append, List.append_assoc]
  obtain ⟨c, more, rfl, -, -, hc⟩ := h.head
  rw [scanValue_members hskip hc hfields, Keyed.ofList_eq_self hnames]

theorem lastItem {j : Json} (ih : Reads (.value j) s) (hb : Blanks layout b) :
    Reads (.items [j]) (s ++ (b ++ [Sign.closeBracket])) := by
  intro fuel rest hfuel
  rw [List.length_append] at hfuel
  obtain ⟨k, rfl⟩ : ∃ k, fuel = k + 1 := ⟨fuel - 1, by omega⟩
  have hskip : skipBlank (b ++ Sign.closeBracket :: rest) = Sign.closeBracket :: rest :=
    skipBlank_append hlayout hb (by decide) rest
  have hitem := ih k (b ++ Sign.closeBracket :: rest) (by omega)
    (ends_append hlayout hb (ends_cons (by decide) _))
  rw [List.append_assoc, List.append_assoc, List.singleton_append]
  exact scanItems_last hitem hskip

theorem item {b' s' : List Nat} {j : Json} {l : List Json} (ih : Reads (.value j) s)
    (hb : Blanks layout b) (hb' : Blanks layout b') (hl : Written layout (.items l) s')
    (ihl : Reads (.items l) s') : Reads (.items (j :: l)) (s ++ (b ++ Sign.comma :: (b' ++ s'))) := by
  intro fuel rest hfuel
  rw [List.length_append, List.length_append, List.length_cons, List.length_append] at hfuel
  obtain ⟨k, rfl⟩ : ∃ k, fuel = k + 1 := ⟨fuel - 1, by omega⟩
  have hskip : skipBlank (b ++ Sign.comma :: (b' ++ (s' ++ rest))) = Sign.comma :: (b' ++ (s' ++ rest)) :=
    skipBlank_append hlayout hb (by decide) _
  have hitem := ih k (b ++ Sign.comma :: (b' ++ (s' ++ rest))) (by omega)
    (ends_append hlayout hb (ends_cons (by decide) _))
  have hitems := ihl k rest (by omega)
  rw [← skipBlank_written hlayout hb' hl rest] at hitems
  rw [List.append_assoc, List.append_assoc, List.cons_append, List.append_assoc]
  exact scanItems_cons hitem hskip hitems

theorem lastMember {b' b'' : List Nat} {j : Json} (name : String) (hb : Blanks layout b)
    (hb' : Blanks layout b') (h : Written layout (.value j) s) (ih : Reads (.value j) s)
    (hb'' : Blanks layout b'') :
    Reads (.members [(.whole name, j)]) (named name b b' (s ++ (b'' ++ [Sign.closeBrace]))) := by
  intro fuel rest hfuel
  simp only [named, List.length_cons, List.length_append] at hfuel
  obtain ⟨k, rfl⟩ : ∃ k, fuel = k + 1 := ⟨fuel - 1, by omega⟩
  have hskip : skipBlank (b'' ++ Sign.closeBrace :: rest) = Sign.closeBrace :: rest :=
    skipBlank_append hlayout hb'' (by decide) rest
  have hvalue := ih k (b'' ++ Sign.closeBrace :: rest) (by omega)
    (ends_append hlayout hb'' (ends_cons (by decide) _))
  rw [← skipBlank_written hlayout hb' h] at hvalue
  simp only [named, List.cons_append, List.append_assoc]
  exact scanMembers_last name (skipBlank_append hlayout hb (by decide) _) hvalue hskip

theorem member {b' b'' b₃ s' : List Nat} {j : Json} {l : List (Text × Json)} (name : String)
    (hb : Blanks layout b) (hb' : Blanks layout b') (h : Written layout (.value j) s)
    (ih : Reads (.value j) s) (hb'' : Blanks layout b'') (hb₃ : Blanks layout b₃)
    (hl : Written layout (.members l) s') (ihl : Reads (.members l) s') :
    Reads (.members ((.whole name, j) :: l))
      (named name b b' (s ++ (b'' ++ Sign.comma :: (b₃ ++ s')))) := by
  intro fuel rest hfuel
  simp only [named, List.length_cons, List.length_append] at hfuel
  obtain ⟨k, rfl⟩ : ∃ k, fuel = k + 1 := ⟨fuel - 1, by omega⟩
  have hskip : skipBlank (b'' ++ Sign.comma :: (b₃ ++ (s' ++ rest)))
      = Sign.comma :: (b₃ ++ (s' ++ rest)) := skipBlank_append hlayout hb'' (by decide) _
  have hvalue := ih k (b'' ++ Sign.comma :: (b₃ ++ (s' ++ rest))) (by omega)
    (ends_append hlayout hb'' (ends_cons (by decide) _))
  have hfields := ihl k rest (by omega)
  rw [← skipBlank_written hlayout hb' h] at hvalue
  rw [← skipBlank_written hlayout hb₃ hl rest] at hfields
  simp only [named, List.cons_append, List.append_assoc]
  exact scanMembers_cons name (skipBlank_append hlayout hb (by decide) _) hvalue hskip hfields

end Reads

/-- **Every written form reads back**, with fuel for twice its length. -/
theorem Written.reads (hlayout : ∀ c ∈ layout, isBlank c = true) {form : Form}
    (h : Written layout form s) : Reads form s := by
  induction h with
  | null => exact Reads.of_succ nofun fun _ _ _ => rfl
  | bool b =>
    cases b with
    | false => exact Reads.of_succ nofun fun _ _ _ => rfl
    | true => exact Reads.of_succ nofun fun _ _ _ => rfl
  | int n hn => exact Reads.int hn
  | text name => exact Reads.text name
  | noItems hb => exact Reads.noItems hlayout hb
  | list hb h ih => exact Reads.list hlayout hb h ih
  | noMembers hb => exact Reads.noMembers hlayout hb
  | members hb hnames h ih => exact Reads.members hlayout hb hnames h ih
  | lastItem h hb ih => exact Reads.lastItem hlayout ih hb
  | item h hb hb' hl ih ihl => exact Reads.item hlayout ih hb hb' hl ihl
  | lastMember name hb hb' h hb'' ih => exact Reads.lastMember hlayout name hb hb' h ih hb''
  | member name hb hb' h hb'' hb₃ hl ih ihl =>
    exact Reads.member hlayout name hb hb' h ih hb'' hb₃ hl ihl

/-! ## 5. What is written -/

/-- **A written form is printable ASCII**, apart from its blanks. -/
theorem Written.printable {form : Form} (h : Written layout form s) :
    ∀ c ∈ s, IsPrintable c ∨ c ∈ layout := by
  have hblanks : ∀ {b}, Blanks layout b → ∀ c ∈ b, IsPrintable c ∨ c ∈ layout :=
    fun hb c hc => Or.inr (hb c hc)
  have hstring : ∀ (name : String) (rest : List Nat), (∀ c ∈ rest, IsPrintable c ∨ c ∈ layout) →
      ∀ c ∈ Sign.quote :: (inner name ++ Sign.quote :: rest), IsPrintable c ∨ c ∈ layout := by
    intro name rest hrest
    refine List.forall_mem_cons.2 ⟨Or.inl (by decide), List.forall_mem_append.2 ⟨?_, ?_⟩⟩
    · exact fun c hc => Or.inl (printable_inner name c hc)
    · exact List.forall_mem_cons.2 ⟨Or.inl (by decide), hrest⟩
  have hsign : ∀ {c rest}, IsPrintable c → (∀ c ∈ rest, IsPrintable c ∨ c ∈ layout) →
      ∀ c' ∈ c :: rest, IsPrintable c' ∨ c' ∈ layout :=
    fun hc hrest => List.forall_mem_cons.2 ⟨Or.inl hc, hrest⟩
  have hnone : ∀ c ∈ ([] : List Nat), IsPrintable c ∨ c ∈ layout :=
    fun c hc => absurd hc List.not_mem_nil
  induction h with
  | null =>
    have hword : ∀ c ∈ points "null", IsPrintable c := by decide
    exact fun c hc => Or.inl (hword c hc)
  | bool b =>
    have hword : ∀ c ∈ points (if b then "true" else "false"), IsPrintable c := by
      cases b <;> decide
    exact fun c hc => Or.inl (hword c hc)
  | int n hn =>
    intro c hc
    obtain ⟨d, hd, rfl⟩ := List.mem_map.1 hc
    exact Or.inl (printable_intChars n d hd)
  | text name => exact hstring name [] hnone
  | noItems hb =>
    exact hsign (by decide) (List.forall_mem_append.2 ⟨hblanks hb, hsign (by decide) hnone⟩)
  | list hb h ih => exact hsign (by decide) (List.forall_mem_append.2 ⟨hblanks hb, ih⟩)
  | noMembers hb =>
    exact hsign (by decide) (List.forall_mem_append.2 ⟨hblanks hb, hsign (by decide) hnone⟩)
  | members hb hnames h ih => exact hsign (by decide) (List.forall_mem_append.2 ⟨hblanks hb, ih⟩)
  | lastItem h hb ih =>
    refine List.forall_mem_append.2 ⟨ih, List.forall_mem_append.2 ⟨hblanks hb, ?_⟩⟩
    exact hsign (by decide) hnone
  | item h hb hb' hl ih ihl =>
    refine List.forall_mem_append.2 ⟨ih, List.forall_mem_append.2 ⟨hblanks hb, ?_⟩⟩
    exact hsign (by decide) (List.forall_mem_append.2 ⟨hblanks hb', ihl⟩)
  | lastMember name hb hb' h hb'' ih =>
    refine hstring name _ (List.forall_mem_append.2 ⟨hblanks hb, hsign (by decide) ?_⟩)
    refine List.forall_mem_append.2 ⟨hblanks hb', List.forall_mem_append.2 ⟨ih, ?_⟩⟩
    exact List.forall_mem_append.2 ⟨hblanks hb'', hsign (by decide) hnone⟩
  | member name hb hb' h hb'' hb₃ hl ih ihl =>
    refine hstring name _ (List.forall_mem_append.2 ⟨hblanks hb, hsign (by decide) ?_⟩)
    refine List.forall_mem_append.2 ⟨hblanks hb', List.forall_mem_append.2 ⟨ih, ?_⟩⟩
    refine List.forall_mem_append.2 ⟨hblanks hb'', hsign (by decide) ?_⟩
    exact List.forall_mem_append.2 ⟨hblanks hb₃, ihl⟩

/-! ## 6. Documents -/

/-- **A document that is a written form with blanks around it** has the value it was written for. -/
theorem parse_of_written (hlayout : ∀ c ∈ layout, isBlank c = true) {b' : List Nat} {j : Json}
    (hb : Blanks layout b) (h : Written layout (.value j) s) (hb' : Blanks layout b') :
    parse (b ++ (s ++ b')) = .ok j := by
  -- a byte order mark is neither printable nor a blank, so the document does not start with one
  have hmark : ∀ more, b ++ (s ++ b') ≠ 0xFEFF :: more := by
    intro more heq
    have hmem : 0xFEFF ∈ b ++ (s ++ b') := heq ▸ List.mem_cons_self
    have hall : ∀ c ∈ b ++ (s ++ b'), IsPrintable c ∨ c ∈ layout := by
      refine List.forall_mem_append.2 ⟨fun c hc => Or.inr (hb c hc), ?_⟩
      exact List.forall_mem_append.2 ⟨h.printable, fun c hc => Or.inr (hb' c hc)⟩
    rcases hall 0xFEFF hmem with hprintable | hblank
    · exact absurd hprintable (by decide)
    · exact absurd (hlayout 0xFEFF hblank) (by decide)
  have hends : Ends b' := by
    have := ends_append hlayout hb' (show Ends [] from trivial)
    rwa [List.append_nil] at this
  have hskip : skipBlank b' = [] := by
    have hblank : ∀ c ∈ b', isBlank c = true := fun c hc => hlayout c (hb' c hc)
    rw [skipBlank, ← List.append_nil b', List.dropWhile_append_of_pos hblank]
    rfl
  have hvalue := h.reads hlayout (2 * (b ++ (s ++ b')).length + 2) b'
    (by rw [List.length_append, List.length_append]; omega) hends
  have hdocument : scanDocument (b ++ (s ++ b')) = .ok j := by
    rw [scanDocument]
    · rw [skipBlank_written hlayout hb h, hvalue]
      simp only [bind, Except.bind, hskip]
    · exact hmark
  rw [parse, hdocument]
  rfl

end Reading

end Json

end OpenerPolicy
