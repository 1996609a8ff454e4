import Rehearsal.Recognition.Slots

/-! # Rules

  A rule recognises a kind of intent wherever its pattern occurs in a text. The rules stand in
  a fixed order and the first one that applies decides, so the order is part of what they
  mean: "turn page in 4 bars" is asked before "turn page", which it contains.

  Rules read normalised text.
-/

namespace Rehearsal

open Text

/-- A pattern whose occurrence shows a kind of intent. -/
structure Rule where
  kind : Kind
  pattern : Pattern
  deriving DecidableEq, Repr

namespace Rule

/-- An article between two words, with the white space after it. -/
def article : Pattern := .maybe (.inOrder [.exactly "the", .gap])

def tempoWord : Pattern := .anyOf ["tempo", "bpm"]

/-- A word for a change, a word for the tempo, and maybe an amount. -/
def change (words : List String) : Pattern :=
  .inOrder [.boundary, .anyOf words, .gap, tempoWord,
    .maybe (.inOrder [.gap, .exactly "by"]),
    .maybe (.inOrder [.gap, .upToThreeDigits]), .boundary]

/-- "start the metronome" -/
def start : Pattern :=
  .inOrder [.boundary, .anyOf ["start", "begin"], .gap, article, .exactly "metronome", .boundary]

/-- "stop the metronome" -/
def stop : Pattern :=
  .inOrder [.boundary, .anyOf ["stop", "end"], .gap, article, .exactly "metronome", .boundary]

/-- "tap tempo" -/
def tap : Pattern :=
  .inOrder [.boundary, .exactly "tap", .gap, .exactly "tempo", .boundary]

/-- "what's the tempo" -/
def query : Pattern :=
  .inOrder [.boundary, .exactly "what",
    .either (.inOrder [.maybe (.exactly "'"), .exactly "s"]) (.inOrder [.gap, .exactly "is"]),
    .gap,
    .maybe (.either (.inOrder [.exactly "the", .gap]) (.inOrder [.exactly "my", .gap])),
    tempoWord, .boundary]

/-- "set tempo to 120" and "tempo 120" -/
def setTempo : Pattern :=
  .inOrder [.boundary,
    .either
      (.inOrder [.exactly "set", .gap, tempoWord, .gap, .anyOf ["to", "at"], .gap,
        .twoOrThreeDigits])
      (.inOrder [tempoWord, .gap, .twoOrThreeDigits]),
    .boundary]

/-- "turn page in 4 bars" -/
def scheduleTurn : Pattern :=
  .inOrder [.boundary, .exactly "turn", .gap, article, .exactly "page", .gap, .exactly "in",
    .boundary, .many .inLine, .boundary, .exactly "bar", .maybe (.exactly "s"), .boundary]

/-- "next page" and "turn the page" -/
def nextPage : Pattern :=
  .inOrder [.boundary,
    .either (.inOrder [.exactly "next", .gap, .exactly "page"])
      (.inOrder [.exactly "turn", .gap, article, .exactly "page"]),
    .boundary]

/-- "previous page" -/
def prevPage : Pattern :=
  .inOrder [.boundary, .anyOf ["previous", "prev"], .gap, .exactly "page", .boundary]

def loneWord (words : List String) : Pattern := .inOrder [.boundary, .anyOf words, .boundary]

/-- All rules, the deciding one first. -/
def all : List Rule := [
  ⟨.startMetronome, start⟩,
  ⟨.stopMetronome, stop⟩,
  ⟨.tapTempo, tap⟩,
  ⟨.queryTempo, query⟩,
  ⟨.setTempo, setTempo⟩,
  ⟨.increaseTempo, change ["increase", "up"]⟩,
  ⟨.decreaseTempo, change ["decrease", "down"]⟩,
  ⟨.setSubdivision, .exactly "subdiv"⟩,
  ⟨.schedulePageTurn, scheduleTurn⟩,
  ⟨.nextPage, nextPage⟩,
  ⟨.prevPage, prevPage⟩,
  ⟨.gotoPage, .exactly "go to page"⟩,
  ⟨.help, loneWord ["help"]⟩,
  ⟨.quit, loneWord ["quit", "exit"]⟩]

def applies (r : Rule) (text : List Char) : Bool := r.pattern.occurs text

def deciding? (text : List Char) : Option Rule := all.find? (·.applies text)

/-- The intent that the rules recognise in a text. -/
def recognise (text : List Char) : Intent :=
  match deciding? text with
  | some r => Slots.fill r.kind text
  | none => .unknown

end Rule

/-- An utterance as the rules read it: trimmed, in lower case, with straight apostrophes. -/
def normalize (utterance : List Char) : List Char :=
  (lowercase (trim utterance)).map fun c => if c = '\u2019' || c = '\u2018' then '\'' else c

end Rehearsal
