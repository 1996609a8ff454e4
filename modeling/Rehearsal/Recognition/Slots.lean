import Rehearsal.Intent
import Rehearsal.Pattern.Basic

/-! # Values in an utterance

  The values of an intent are read out of the text by four finders. They are the same whether
  a rule or the statistical model recognised the intent, and they need no normalised text:
  where letters matter, their case does not.

  Digits of every script are found, but only basic Latin ones have a value.
-/

namespace Rehearsal

open Text

namespace Slots

/-- A number of one to three digits that is a word of its own. -/
def numberFinder : Finder :=
  ⟨.boundary, .upToThreeDigits, .boundary⟩

/-- The number after the word "page". -/
def pageFinder : Finder :=
  ⟨.inOrder [.boundary, .folded "page", .gap], .upToThreeDigits, .boundary⟩

/-- The number before the word "bar" or "bars". -/
def barsFinder : Finder :=
  ⟨.boundary, .upToThreeDigits,
    .inOrder [.gap, .folded "bar", .maybe (.one (.folded 's')), .boundary]⟩

/-- The name of a subdivision, anywhere. -/
def subdivisionFinder : Finder :=
  ⟨.nothing, .oneOf (Subdivision.all.map fun s => .folded s.name), .nothing⟩

/-- The value of a row of basic Latin digits. -/
def value? (ds : List Char) : Option Nat :=
  if ds.all Char.isDigit then some (Number.ofDigits ds) else none

def number (text : List Char) : Option Nat := (numberFinder.find? text).bind value?

/-- The number after "page", or else the first number. -/
def page (text : List Char) : Option Nat :=
  ((pageFinder.find? text).bind value?).or (number text)

/-- The number before "bar" or "bars". -/
def bars (text : List Char) : Option Nat := (barsFinder.find? text).bind value?

/-- The first subdivision named. -/
def subdivision (text : List Char) : Option Subdivision :=
  (subdivisionFinder.find? text).bind Subdivision.ofName?

/-- The intent of a kind, with the values that the text has for it. -/
def fill (kind : Kind) (text : List Char) : Intent :=
  match kind with
  | .startMetronome => .startMetronome
  | .stopMetronome => .stopMetronome
  | .tapTempo => .tapTempo
  | .queryTempo => .queryTempo
  | .setTempo => .setTempo (number text)
  | .increaseTempo => .adjustTempo (number text) .up
  | .decreaseTempo => .adjustTempo (number text) .down
  | .setSubdivision => .setSubdivision (subdivision text)
  | .nextPage => .nextPage
  | .prevPage => .prevPage
  | .gotoPage => .gotoPage (page text)
  | .schedulePageTurn => .schedulePageTurn (bars text)
  | .help => .help
  | .quit => .quit
  | .unknown => .unknown

theorem kind_fill (kind : Kind) (text : List Char) : (fill kind text).kind = kind := by
  cases kind <;> rfl

end Slots

end Rehearsal
