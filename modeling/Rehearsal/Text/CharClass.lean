import Rehearsal.Text.Alphabetic
import Rehearsal.Text.Cased
import Rehearsal.Text.Number
import Rehearsal.Text.Word

/-! # Classes of characters

  The classes that the rest of the library asks about. All follow the Unicode properties of
  the same names; none is limited to one script. What patterns ask about, words and digits,
  follows an earlier edition of the standard than the rest, so a letter may be new to them.
-/

namespace Rehearsal.Text

/-- The ranges of white space. -/
def blanks : Ranges := [
  (0x9, 0xD), (0x20, 0x20), (0x85, 0x85), (0xA0, 0xA0), (0x1680, 0x1680), (0x2000, 0x200A),
  (0x2028, 0x2029), (0x202F, 0x202F), (0x205F, 0x205F), (0x3000, 0x3000)]

/-- White space, line ends included. -/
def isBlank (c : Char) : Bool := blanks.contains c.toNat

/-- A decimal digit of any script. -/
def isDecimalDigit (c : Char) : Bool := decimalDigits.contains c.toNat

/-- A letter, or a mark or number that counts as one. -/
def isAlphabetic (c : Char) : Bool := alphabetic.contains c.toNat

/-- A letter or any kind of number. -/
def isAlphanumeric (c : Char) : Bool := isAlphabetic c || numbers.contains c.toNat

/-- A character that belongs to a word: a letter, mark, decimal digit, connector or join
    control. -/
def isWord (c : Char) : Bool := wordCharacters.contains c.toNat

def isCased (c : Char) : Bool := cased.contains c.toNat

/-- A character that is looked through when the case of its neighbours is asked. -/
def isCaseIgnorable (c : Char) : Bool := caseIgnorable.contains c.toNat

end Rehearsal.Text
