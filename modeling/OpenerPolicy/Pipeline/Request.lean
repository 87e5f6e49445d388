/-
  File:      OpenerPolicy/Pipeline/Request.lean
  Subject:   THE REQUEST AS INTERCEPTORS SEE IT.

  * `Request`, `Request.header?` -- method, path and headers under lowercase names;
  * `collapse` -- one value for each header: the first of the lines with its name.
-/
import OpenerPolicy.Keyed
import OpenerPolicy.Text.Case

namespace OpenerPolicy

/-- A request; the names of its headers are in lowercase. -/
structure Request where
  method : String := "GET"
  path : String := "/"
  headers : Keyed String String := []
  deriving DecidableEq, Repr

/-- The value of a header. -/
def Request.header? (r : Request) (name : String) : Option String := r.headers.find? name

/-- An entry that is put only if its key is not there yet. -/
def putFirst (l : Keyed String String) (name value : String) : Keyed String String :=
  if (l.find? name).isSome then l else l ++ [(name, value)]

/-- **One value for each header**: of several lines with one name the first counts. -/
def collapse (lines : List (String × String)) : Keyed String String :=
  lines.foldl (fun l line => putFirst l (Text.lowercase line.1) line.2) []

theorem find?_putFirst (l : Keyed String String) (name value other : String) :
    (putFirst l name value).find? other =
      (l.find? other).or (if name = other then some value else none) := by
  unfold putFirst
  by_cases h : (l.find? name).isSome
  · rw [if_pos h]
    by_cases hn : name = other
    · subst hn
      obtain ⟨v, hv⟩ := Option.isSome_iff_exists.1 h
      simp [hv]
    · simp [hn]
  · rw [if_neg h]
    induction l with
    | nil => simp [Keyed.find?]
    | cons e rest ih =>
      obtain ⟨k, v⟩ := e
      by_cases hk : k = name
      · simp [Keyed.find?, hk] at h
      · have := ih (by simpa [Keyed.find?, hk] using h)
        by_cases ho : k = other
        · simp [Keyed.find?, ho]
        · simpa [Keyed.find?, ho] using this

end OpenerPolicy
