/-
  File:      OpenerPolicy/Text/Split.lean
  Subject:   TEXT CUT INTO PIECES.

  * `pieces` -- the pieces between separators; without a separator the whole is the only piece.
-/

namespace OpenerPolicy.Text

/-- **The pieces of text between separators.** -/
def pieces (separator : Char) : List Char → List (List Char)
  | [] => [[]]
  | c :: rest =>
    if c = separator then [] :: pieces separator rest
    else
      match pieces separator rest with
      | [] => [[c]]
      | piece :: more => (c :: piece) :: more

end OpenerPolicy.Text
