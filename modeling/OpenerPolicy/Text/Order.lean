/-
  File:      OpenerPolicy/Text/Order.lean
  Subject:   LISTS OF TEXTS IN ORDER.

  Texts are ordered by their code points, the first difference deciding.

  * `ordered` -- the texts of a list in order;
  * `perm_ordered` -- nothing is lost and nothing is added;
  * `pairwise_ordered` -- no text comes before a smaller one.
-/

namespace OpenerPolicy.Text

/-- A text put before the first one that is not smaller. -/
def insertOrdered (s : String) : List String → List String
  | [] => [s]
  | t :: rest => if s ≤ t then s :: t :: rest else t :: insertOrdered s rest

/-- **The texts of a list in order.** -/
def ordered : List String → List String
  | [] => []
  | s :: rest => insertOrdered s (ordered rest)

theorem perm_insertOrdered (s : String) (l : List String) : (insertOrdered s l).Perm (s :: l) := by
  induction l with
  | nil => exact List.Perm.refl _
  | cons t rest ih =>
    unfold insertOrdered
    split
    · exact List.Perm.refl _
    · exact (ih.cons t).trans (List.Perm.swap s t rest)

/-- **Nothing is lost and nothing is added.** -/
theorem perm_ordered (l : List String) : (ordered l).Perm l := by
  induction l with
  | nil => exact List.Perm.refl _
  | cons s rest ih => exact (perm_insertOrdered s _).trans (ih.cons s)

@[simp] theorem mem_ordered (t : String) (l : List String) : t ∈ ordered l ↔ t ∈ l :=
  (perm_ordered l).mem_iff

theorem pairwise_insertOrdered (s : String) {l : List String} (h : l.Pairwise (· ≤ ·)) :
    (insertOrdered s l).Pairwise (· ≤ ·) := by
  induction l with
  | nil => simp [insertOrdered]
  | cons t rest ih =>
    obtain ⟨ht, hr⟩ := List.pairwise_cons.1 h
    unfold insertOrdered
    split
    · next hs =>
      refine List.pairwise_cons.2 ⟨fun u hu => ?_, h⟩
      rcases List.mem_cons.1 hu with rfl | hu
      · exact hs
      · exact String.le_trans hs (ht u hu)
    · next hs =>
      refine List.pairwise_cons.2 ⟨fun u hu => ?_, ih hr⟩
      rcases List.mem_cons.1 ((perm_insertOrdered s rest).mem_iff.1 hu) with rfl | hu
      · exact (String.le_total t u).resolve_right hs
      · exact ht u hu

/-- **No text comes before a smaller one.** -/
theorem pairwise_ordered (l : List String) : (ordered l).Pairwise (· ≤ ·) := by
  induction l with
  | nil => exact List.Pairwise.nil
  | cons s rest ih => exact pairwise_insertOrdered s ih

end OpenerPolicy.Text
