/-!
# Pieces of a text

A text is cut at each character with some property. There is one piece more than there are such
characters, and pieces may be empty.
-/

namespace PrivilegeCatalog.Text

/-- The pieces before, between and after the characters with the property. -/
def piecesBy (p : Char → Bool) : List Char → List (List Char)
  | [] => [[]]
  | c :: rest =>
    if p c then [] :: piecesBy p rest
    else
      match piecesBy p rest with
      | [] => [[c]]
      | piece :: others => (c :: piece) :: others

/-- There is always a piece. -/
theorem piecesBy_ne_nil (p : Char → Bool) (cs : List Char) : piecesBy p cs ≠ [] := by
  cases cs with
  | nil => simp [piecesBy]
  | cons c rest =>
    simp only [piecesBy]
    split
    · simp
    · split <;> simp

end PrivilegeCatalog.Text
