import Rehearsal.Text.Lowercase
import Rehearsal.Text.Pieces

/-! # Terms of a phrase

  The statistical model sees a phrase as its terms: the words of at least two characters, in
  lower case, and the pairs of such words that stand next to each other.
-/

namespace Rehearsal

open Text

namespace Terms

/-- Whether a character parts two words of a phrase. -/
def isSeparator (c : Char) : Bool := !(isAlphanumeric c || c == '_')

/-- The words of a phrase that are long enough to count. -/
def wordsOf (phrase : List Char) : List (List Char) :=
  (pieces isSeparator (lowercase phrase)).filter fun w => 2 ≤ w.length

/-- The pairs of neighbouring words, joined by a space. -/
def pairs (ws : List (List Char)) : List (List Char) :=
  List.zipWith (fun a b => a ++ ' ' :: b) ws (ws.drop 1)

/-- The terms of a phrase: its words and then its pairs. -/
def of (phrase : List Char) : List (List Char) :=
  let ws := wordsOf phrase
  ws ++ pairs ws

end Terms

end Rehearsal
