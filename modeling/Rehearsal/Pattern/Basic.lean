import Rehearsal.Text.Lowercase

/-! # Patterns

  A `Pattern` describes stretches of text. It is matched from a `Place`: what comes before the
  place decides whether a word boundary lies there, what comes after it is read.

  `Pattern.ends` lists every place where a match can end, the preferred one first: longer
  repetitions before shorter ones, a present option before an absent one, the left alternative
  before the right one. A match of a sequence is preferred by its first part, then by its
  second. All recursion is on the pattern or on the text, so matching always ends.
-/

namespace Rehearsal

open Text

/-- A set of characters that a pattern can ask for. -/
inductive CharSet where
  | blank
  /-- A decimal digit of any script. -/
  | digit
  /-- Any character but a line feed. -/
  | inLine
  | exactly (c : Char)
  /-- A basic Latin letter in lower case, and all that folds to it. -/
  | folded (c : Char)
  deriving DecidableEq, Repr

def CharSet.accepts : CharSet → Char → Bool
  | .blank, c => isBlank c
  | .digit, c => isDecimalDigit c
  | .inLine, c => c != '\n'
  | .exactly d, c => c == d
  | .folded d, c => foldLetter c == d

/-- A description of stretches of text. -/
inductive Pattern where
  /-- The empty stretch. -/
  | nothing
  /-- The empty stretch, where a word begins or ends. -/
  | boundary
  | one (set : CharSet)
  | seq (first second : Pattern)
  | either (left right : Pattern)
  | maybe (body : Pattern)
  | many (set : CharSet)
  deriving DecidableEq, Repr

/-- A position in a text: the character before it, if any, and the text after it. -/
structure Place where
  /-- The character just before the place. -/
  before : Option Char
  /-- The text from the place on. -/
  rest : List Char
  deriving DecidableEq, Repr

namespace Place

def front (text : List Char) : Place := ⟨none, text⟩

/-- All places from one on, in the order of the text. -/
def onward (before : Option Char) : List Char → List Place
  | [] => [⟨before, []⟩]
  | c :: rest => ⟨before, c :: rest⟩ :: onward (some c) rest

def all (text : List Char) : List Place := onward none text

/-- Whether a word begins or ends between two characters; the ends of a text count as no word
    character. -/
def isBoundary (before after : Option Char) : Bool := before.any isWord != after.any isWord

/-- What was read between a place and a later one. -/
def upTo (start stop : Place) : List Char := start.rest.take (start.rest.length - stop.rest.length)

end Place

namespace Pattern

/-- Where a run of characters of a set can end, in front of the ends in `shorter`; the longest
    run comes first. -/
def runEnds (set : CharSet) (shorter : List Place) (before : Option Char) :
    List Char → List Place
  | [] => ⟨before, []⟩ :: shorter
  | c :: rest =>
    if set.accepts c then runEnds set (⟨before, c :: rest⟩ :: shorter) (some c) rest
    else ⟨before, c :: rest⟩ :: shorter

/-- The places where a match can end, the preferred one first. -/
def ends : Pattern → Place → List Place
  | .nothing, p => [p]
  | .boundary, p => if Place.isBoundary p.before p.rest.head? then [p] else []
  | .one set, p =>
    match p.rest with
    | [] => []
    | c :: rest => if set.accepts c then [⟨some c, rest⟩] else []
  | .seq first second, p => (first.ends p).flatMap second.ends
  | .either left right, p => left.ends p ++ right.ends p
  | .maybe body, p => body.ends p ++ [p]
  | .many set, p => runEnds set [] p.before p.rest

/-- Whether the pattern matches a stretch that begins at a place. -/
def startsAt (pattern : Pattern) (p : Place) : Bool := !(pattern.ends p).isEmpty

/-- Whether the pattern matches somewhere in a text. -/
def occurs (pattern : Pattern) (text : List Char) : Bool := (Place.all text).any pattern.startsAt

/-! ### Building patterns -/

def inOrder : List Pattern → Pattern
  | [] => .nothing
  | p :: ps => .seq p (inOrder ps)

/-- One of several patterns, the earlier ones preferred. -/
def oneOf : List Pattern → Pattern
  | [] => .nothing
  | [p] => p
  | p :: q :: ps => .either p (oneOf (q :: ps))

def exactly (text : String) : Pattern := inOrder (text.toList.map fun c => .one (.exactly c))

/-- A word in lower case, read without regard to case. -/
def folded (text : String) : Pattern := inOrder (text.toList.map fun c => .one (.folded c))

/-- One of several texts as they stand. -/
def anyOf (texts : List String) : Pattern := oneOf (texts.map exactly)

/-- White space, at least one character. -/
def gap : Pattern := .seq (.one .blank) (.many .blank)

def digit : Pattern := .one .digit

def upToThreeDigits : Pattern := .seq digit (.maybe (.seq digit (.maybe digit)))

def twoOrThreeDigits : Pattern := inOrder [digit, digit, .maybe digit]

end Pattern

/-! ### Reading a value out of a text -/

/-- A value to be found in a text: a stretch that matches `value`, with a match of `lead` just
    before it and one of `tail` just after it. -/
structure Finder where
  lead : Pattern
  value : Pattern
  tail : Pattern
  deriving DecidableEq, Repr

namespace Finder

/-- The preferred value of a match that begins at a place. -/
def valueAt (f : Finder) (p : Place) : Option (List Char) :=
  (f.lead.ends p).findSome? fun start =>
    (f.value.ends start).findSome? fun stop =>
      if f.tail.startsAt stop then some (start.upTo stop) else none

/-- The value of the first match in a text. -/
def find? (f : Finder) (text : List Char) : Option (List Char) :=
  (Place.all text).findSome? f.valueAt

end Finder

end Rehearsal
