import Rehearsal.Text.CharClass

/-! # Cutting a text

  `pieces` cuts a text at every separator, so `n` separators give `n + 1` pieces, empty ones
  included. Words are the pieces between blanks that are not empty.
-/

namespace Rehearsal.Text

/-- The text without white space in front. -/
def trimStart (cs : List Char) : List Char := cs.dropWhile isBlank

/-- The text without the characters of a class at its end. -/
def dropEndWhile (p : Char → Bool) (cs : List Char) : List Char :=
  (cs.reverse.dropWhile p).reverse

/-- The text without white space at its end. -/
def trimEnd (cs : List Char) : List Char := dropEndWhile isBlank cs

/-- The text without white space at either end. -/
def trim (cs : List Char) : List Char := trimEnd (trimStart cs)

/-- The text without the characters of a class at either end. -/
def trimWhile (p : Char → Bool) (cs : List Char) : List Char := dropEndWhile p (cs.dropWhile p)

/-- The pieces of a text between the characters of a class. -/
def pieces (isSeparator : Char → Bool) : List Char → List (List Char)
  | [] => [[]]
  | c :: rest =>
    match pieces isSeparator rest with
    | [] => [[]]
    | p :: ps => if isSeparator c then [] :: p :: ps else (c :: p) :: ps

/-- The words of a text: its longest stretches without white space. -/
def words (cs : List Char) : List (List Char) :=
  (pieces isBlank cs).filter fun w => !w.isEmpty

/-- Words joined by single spaces. -/
def unwords (ws : List (List Char)) : List Char := [' '].intercalate ws

theorem pieces_ne_nil (isSeparator : Char → Bool) (cs : List Char) :
    pieces isSeparator cs ≠ [] := by
  induction cs with
  | nil => simp [pieces]
  | cons c rest ih =>
    unfold pieces
    split
    · exact absurd (by assumption) ih
    · split <;> simp

end Rehearsal.Text
