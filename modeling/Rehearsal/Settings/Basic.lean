import Rehearsal.Number.Binary64
import Rehearsal.Recognition.Classifier
import Rehearsal.Tempo.Basic

/-! # Settings

  The settings of a practice session, and layers of settings. A layer gives a value to some of
  the settings and leaves the others open. What holds in the end is built up from below: the
  settings that hold when nothing is given, over them the layer of a settings file, over that
  the layer of a command line.
-/

namespace Rehearsal

/-- The greatest count that a setting can be. -/
def maxCount : Nat := 4294967295

/-- All settings. -/
structure Settings where
  /-- The tempo at the start, in beats per minute; brought into range when it is used. -/
  bpm : Nat
  subdivision : Subdivision
  usesModel : Bool
  /-- The least probability at which a prediction counts. -/
  threshold : Number.Binary64
  musicDir : String
  totalPages : Option Nat
  wakeWord : Option String
  prompt : String
  viewerEnabled : Bool
  viewerCommand : Option String
  deriving DecidableEq, Repr

namespace Settings

/-- The settings that hold when nothing is given. -/
def initial : Settings :=
  { bpm := usualBpm
    subdivision := .quarter
    usesModel := true
    threshold := .ofDecimal false 45 (-2)
    musicDir := "music"
    totalPages := none
    wakeWord := none
    prompt := "You: "
    viewerEnabled := true
    viewerCommand := none }

def tempo (s : Settings) : Tempo := .of s.bpm s.subdivision

def classifier (s : Settings) : Classifier :=
  if s.usesModel then .standard s.threshold.toFloat else .ofRules

/-- Equality of settings, with the thresholds compared as numbers: settings whose threshold is
    undefined differ from all settings. -/
def same (s t : Settings) : Bool :=
  s.threshold.same t.threshold && { s with threshold := t.threshold } == t

/-- Values for some of the settings. -/
structure Layer where
  bpm : Option Nat := none
  subdivision : Option Subdivision := none
  usesModel : Option Bool := none
  threshold : Option Number.Binary64 := none
  musicDir : Option String := none
  totalPages : Option Nat := none
  wakeWord : Option String := none
  prompt : Option String := none
  viewerEnabled : Option Bool := none
  viewerCommand : Option String := none
  deriving DecidableEq, Repr

/-- The settings of a layer, and below it, where the layer leaves one open, those given. -/
def Layer.applyTo (l : Layer) (below : Settings) : Settings :=
  { bpm := l.bpm.getD below.bpm
    subdivision := l.subdivision.getD below.subdivision
    usesModel := l.usesModel.getD below.usesModel
    threshold := l.threshold.getD below.threshold
    musicDir := l.musicDir.getD below.musicDir
    totalPages := l.totalPages <|> below.totalPages
    wakeWord := l.wakeWord <|> below.wakeWord
    prompt := l.prompt.getD below.prompt
    viewerEnabled := l.viewerEnabled.getD below.viewerEnabled
    viewerCommand := l.viewerCommand <|> below.viewerCommand }

end Settings

end Rehearsal
