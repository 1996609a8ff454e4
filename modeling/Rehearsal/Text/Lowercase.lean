import Rehearsal.Text.CaseRun
import Rehearsal.Text.CharClass

/-! # Lower case

  `lowercase` writes a text in lower case by the full Unicode rules: character by character,
  but a Greek capital sigma that ends a word becomes a final sigma, and U+0130 becomes two
  characters.

  `foldLetter` is the weaker comparison that patterns use: it only brings together characters
  that fold to the same basic Latin letter.
-/

namespace Rehearsal.Text

/-- The run that holds a character; the search ends at the first run that starts above it. -/
def CaseRun.find? : List CaseRun → Nat → Option CaseRun
  | [], _ => none
  | r :: rest, n =>
    if n < r.first then none else if r.contains n then some r else CaseRun.find? rest n

/-- The lower-case form of one character, its neighbours left out of account. -/
def lowerChar (c : Char) : List Char :=
  if c = '\u0130' then ['i', '\u0307']
  else
    match CaseRun.find? caseRuns c.toNat with
    | some r => [Char.ofNat ((c.toNat : Int) + r.offset).toNat]
    | none => [c]

/-- Whether the first character that is not case-ignorable is cased. -/
def startsCased (cs : List Char) : Bool :=
  match cs.dropWhile isCaseIgnorable with
  | c :: _ => isCased c
  | [] => false

/-- Lower case of a text that follows a cased character (`afterCased`) or does not. A capital
    sigma is final when a cased character comes before it and none after it, case-ignorable
    ones not counting. -/
def lowercaseFrom (afterCased : Bool) : List Char → List Char
  | [] => []
  | c :: rest =>
    let lowered :=
      if c = 'Σ' then [if afterCased && !startsCased rest then 'ς' else 'σ'] else lowerChar c
    lowered ++ lowercaseFrom (if isCaseIgnorable c then afterCased else isCased c) rest

/-- A text in lower case. -/
def lowercase (cs : List Char) : List Char := lowercaseFrom false cs

/-- The basic Latin letter in lower case that a character folds to, or the character itself.
    Besides the capitals these are the long s and the kelvin sign. -/
def foldLetter (c : Char) : Char :=
  if c = '\u017F' then 's' else if c = '\u212A' then 'k' else c.toLower

/-- Equality but for the case of basic Latin letters. -/
def sameLetters (xs ys : List Char) : Bool := xs.map Char.toLower == ys.map Char.toLower

end Rehearsal.Text
