import Rehearsal.Recognition.Model
import Rehearsal.Recognition.Rules

/-! # Classifying utterances

  If there is a model and the probability of its prediction reaches the threshold, the kind is
  the model's, with the values of the utterance. Otherwise the rules decide on the normalised
  utterance. Every utterance has an intent; one that is not understood is `Intent.unknown`.
-/

namespace Rehearsal

/-- A number brought between zero and one; the undefined number stays as it is. -/
def clampUnit (x : Float) : Float := if x < 0.0 then 0.0 else if 1.0 < x then 1.0 else x

/-- What maps utterances to intents. -/
structure Classifier where
  model : Option Model
  /-- The least probability at which a prediction counts. -/
  threshold : Float

namespace Classifier

/-- The threshold that holds when none is given. -/
def defaultThreshold : Float := 0.45

/-- A classifier without a model. -/
def ofRules : Classifier := ⟨none, defaultThreshold⟩

def ofModel (model : Model) (threshold : Float) : Classifier := ⟨some model, clampUnit threshold⟩

/-- A classifier that asks the built-in model first. -/
def standard (threshold : Float) : Classifier := ofModel .builtIn threshold

def isStatistical (c : Classifier) : Bool := c.model.isSome

/-- The prediction of the model where it counts. -/
def prediction? (c : Classifier) (utterance : List Char) : Option (Kind × Float) :=
  (c.model.bind (·.predict utterance)).filter fun (_, p) => decide (c.threshold ≤ p)

def classify (c : Classifier) (utterance : List Char) : Classified :=
  match c.prediction? utterance with
  | some (kind, p) => ⟨Slots.fill kind utterance, some (clampUnit p)⟩
  | none => ⟨Rule.recognise (normalize utterance), none⟩

end Classifier

end Rehearsal
