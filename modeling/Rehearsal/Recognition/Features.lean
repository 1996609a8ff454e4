import Rehearsal.Recognition.Tally
import Rehearsal.Recognition.Terms

/-! # Features of a phrase

  A phrase is turned into numbers by its terms. Each term of the training phrases has a column;
  a phrase has in that column how often it holds the term, times the weight of the term, and
  the whole is scaled to length one. A term weighs the more the fewer training phrases hold
  it.

  The training phrases are gone through one by one, and a phrase counts once for each of its
  terms. Columns are then numbered in the order of the terms.
-/

namespace Rehearsal

/-- The non-zero columns of a phrase, in increasing order, with their values. -/
abbrev FeatureVector := List (Nat × Float)

namespace FeatureVector

def norm (x : FeatureVector) : Float :=
  (x.foldl (fun sum entry => sum + entry.2 * entry.2) (0.0 : Float)).sqrt

/-- The vector scaled to length one; a vector without length stays as it is. -/
def unit (x : FeatureVector) : FeatureVector :=
  let length := x.norm
  if 0.0 < length then x.map fun entry => (entry.1, entry.2 / length) else x

end FeatureVector

/-- The terms of the training phrases with their columns, and the weights of the columns. -/
structure Features where
  vocabulary : List (List Char × Nat)
  weights : Array Float

namespace Features

/-- How many of some phrases hold each term. -/
def held (phrases : List (List Char)) : Tally (List Char) :=
  phrases.foldl (fun t phrase => t.addAll (distinct (Terms.of phrase))) []

/-- The weight of a term that `held` of `total` phrases hold. -/
def weight (total held : Nat) : Float :=
  Float.log ((1.0 + total.toFloat) / (1.0 + held.toFloat)) + 1.0

def ofPhrases (phrases : List (List Char)) : Features :=
  let terms := held phrases
  { vocabulary := terms.things.zipIdx
    weights := (terms.map fun (_, n) => weight phrases.length n).toArray }

/-- How many columns there are. -/
def size (f : Features) : Nat := f.weights.size

def column? (f : Features) (term : List Char) : Option Nat := f.vocabulary.lookup term

/-- The columns that a phrase has terms in, and how many of its terms each. -/
def columns (f : Features) (phrase : List Char) : Tally Nat :=
  Tally.of ((Terms.of phrase).filterMap f.column?)

/-- The columns that a phrase has terms in, before scaling. -/
def counts (f : Features) (phrase : List Char) : FeatureVector :=
  (f.columns phrase).map fun (column, n) => (column, n.toFloat * f.weights.getD column 0.0)

def vector (f : Features) (phrase : List Char) : FeatureVector := (f.counts phrase).unit

end Features

end Rehearsal
