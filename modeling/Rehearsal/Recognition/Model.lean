import Rehearsal.Intent
import Rehearsal.Recognition.Features

/-! # The statistical model

  A linear model over the features of a phrase gives each kind of intent a probability. It is
  trained from labelled phrases by five hundred steps down the gradient of the mean loss, the
  weights drawn gently toward zero. Training begins at zero and adds up in the order of the
  phrases, so the same phrases always give the same model.

  The model predicts a kind only; values are read separately.
-/

namespace Rehearsal

/-- A phrase and the kind of intent that it stands for. -/
structure Sample where
  phrase : List Char
  kind : Kind
  deriving DecidableEq, Repr

/-- A row of weights per kind, and one number per kind that is added to every phrase's. A
    gradient has the same shape. -/
structure Parameters where
  /-- For each kind the weight of each column. -/
  rows : Array (Array Float)
  /-- For each kind what is added. -/
  bias : Array Float

namespace Parameters

def zero (kinds columns : Nat) : Parameters :=
  { rows := Array.replicate kinds (Array.replicate columns 0.0)
    bias := Array.replicate kinds 0.0 }

def dot (row : Array Float) (x : FeatureVector) : Float :=
  x.foldl (fun sum entry => sum + row.getD entry.1 0.0 * entry.2) (0.0 : Float)

def scores (p : Parameters) (x : FeatureVector) : Array Float :=
  Array.zipWith (fun row b => b + dot row x) p.rows p.bias

def softmax (scores : Array Float) : Array Float :=
  let top := scores.foldl (fun a b => if a ≤ b then b else a) (-1.0 / 0.0)
  let powers := scores.map fun s => (s - top).exp
  let total := powers.foldl (fun sum e => sum + e) 0.0
  powers.map fun e => e / total

def probabilities (p : Parameters) (x : FeatureVector) : Array Float := softmax (p.scores x)

def addScaled (row : Array Float) (factor : Float) (x : FeatureVector) : Array Float :=
  x.foldl (fun row entry => row.modify entry.1 fun old => old + factor * entry.2) row

/-- How far the probabilities are from naming the target. -/
def errors (p : Parameters) (x : FeatureVector) (target : Nat) : Array Float :=
  (p.probabilities x).mapIdx fun i probability =>
    probability - (if i = target then 1.0 else 0.0)

/-- A gradient with the share of one phrase added. -/
def accumulate (p gradient : Parameters) (x : FeatureVector) (target : Nat) : Parameters :=
  let off := p.errors x target
  { rows := Array.zipWith (fun row e => addScaled row e x) gradient.rows off
    bias := Array.zipWith (fun b e => b + e) gradient.bias off }

/-- How far one step goes. -/
def stepSize : Float := 2.0

/-- How strongly weights are drawn toward zero. -/
def decay : Float := 0.01

/-- One step down the gradient of so many phrases. -/
def descend (p gradient : Parameters) (phrases : Float) : Parameters :=
  { rows := Array.zipWith (fun row slope =>
      Array.zipWith (fun w g => w - stepSize * (g / phrases + decay * w)) row slope)
      p.rows gradient.rows
    bias := Array.zipWith (fun b g => b - stepSize * g / phrases) p.bias gradient.bias }

/-- The gradient of some phrases, each given by its vector and the number of its kind. -/
def gradientOf (p : Parameters) (kinds columns : Nat) (data : List (FeatureVector × Nat)) :
    Parameters :=
  data.foldl (fun g entry => p.accumulate g entry.1 entry.2) (zero kinds columns)

/-- One pass over all phrases, and the step that follows from it. -/
def pass (kinds columns : Nat) (data : List (FeatureVector × Nat)) (p : Parameters) :
    Parameters :=
  p.descend (p.gradientOf kinds columns data) data.length.toFloat

end Parameters

/-- A trained model. -/
structure Model where
  features : Features
  /-- The kinds that can be predicted, in order. -/
  classes : List Kind
  parameters : Parameters

namespace Model

/-- How many steps training takes. -/
def passes : Nat := 500

/-- The kinds that occur among the samples, in order. -/
def classesOf (samples : List Sample) : List Kind := distinct (samples.map (·.kind))

/-- The samples as vectors with the numbers of their kinds. -/
def dataOf (features : Features) (classes : List Kind) (samples : List Sample) :
    List (FeatureVector × Nat) :=
  samples.map fun s => (features.vector s.phrase, (classes.idxOf? s.kind).getD 0)

/-- The parameters after so many passes. -/
def descent (kinds columns : Nat) (data : List (FeatureVector × Nat)) : Nat → Parameters
  | 0 => .zero kinds columns
  | n + 1 => Parameters.pass kinds columns data (descent kinds columns data n)

/-- The model of some labelled phrases. Without phrases it has no kinds and predicts
    nothing. -/
def train (samples : List Sample) : Model :=
  let features := Features.ofPhrases (samples.map (·.phrase))
  let classes := classesOf samples
  let data := dataOf features classes samples
  let steps := if samples.isEmpty then 0 else passes
  { features
    classes
    parameters := descent classes.length features.size data steps }

/-- The pair with the greatest number, the last one of several equal ones. -/
def mostProbable {α : Type} : List (α × Float) → Option (α × Float)
  | [] => none
  | first :: rest => some (rest.foldl (fun best p => if best.2 ≤ p.2 then p else best) first)

/-- The most probable kind of a phrase and its probability, or nothing when the phrase has no
    term that the model knows. -/
def predict (m : Model) (phrase : List Char) : Option (Kind × Float) :=
  match m.features.vector phrase with
  | [] => none
  | x => mostProbable (m.classes.zip (m.parameters.probabilities x).toList)

/-- The phrases that the built-in model is trained on. -/
def examplePhrases : List (String × Kind) := [
  ("start metronome", .startMetronome),
  ("begin metronome", .startMetronome),
  ("stop metronome", .stopMetronome),
  ("end metronome", .stopMetronome),
  ("set tempo to 120", .setTempo),
  ("tempo 140", .setTempo),
  ("bpm 76", .setTempo),
  ("increase tempo by 5", .increaseTempo),
  ("tempo up 3", .increaseTempo),
  ("decrease tempo by 4", .decreaseTempo),
  ("tempo down 10", .decreaseTempo),
  ("what's tempo", .queryTempo),
  ("what is my bpm", .queryTempo),
  ("tap tempo", .tapTempo),
  ("next page", .nextPage),
  ("turn page", .nextPage),
  ("previous page", .prevPage),
  ("go to page 5", .gotoPage),
  ("open page 3", .gotoPage),
  ("set subdivision to eighth", .setSubdivision),
  ("subdivision triplet", .setSubdivision),
  ("turn page in 4 bars", .schedulePageTurn),
  ("help", .help),
  ("quit", .quit)]

def builtIn : Model := train (examplePhrases.map fun (phrase, kind) => ⟨phrase.toList, kind⟩)

end Model

end Rehearsal
