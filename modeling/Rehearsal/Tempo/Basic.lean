import Rehearsal.Duration
import Rehearsal.Tempo.Subdivision

/-! # Tempo

  A tempo is a number of beats per minute together with a subdivision, and the time between
  two ticks that follows from them. `Tempo.of` is the only way a tempo is made: it brings the
  beats per minute into range and computes the interval, so neither can be out of date.
-/

namespace Rehearsal

def slowestBpm : Nat := 20

def fastestBpm : Nat := 300

/-- The tempo that holds when none is given. -/
def usualBpm : Nat := 100

def beatsPerBar : Nat := 4

/-- A requested tempo brought into range. -/
def nearestBpm (bpm : Int) : Nat := (max (slowestBpm : Int) (min (fastestBpm : Int) bpm)).toNat

theorem nearestBpm_range (bpm : Int) :
    slowestBpm ≤ nearestBpm bpm ∧ nearestBpm bpm ≤ fastestBpm := by
  unfold nearestBpm slowestBpm fastestBpm
  omega

theorem nearestBpm_of_range {n : Nat} (low : slowestBpm ≤ n) (high : n ≤ fastestBpm) :
    nearestBpm (n : Int) = n := by
  unfold nearestBpm
  unfold slowestBpm at *
  unfold fastestBpm at *
  omega

/-- The time that so many bars take at a tempo; a tempo of zero counts as one. -/
def timeOfBars (bars bpm : Nat) : Duration :=
  let secondsPerBeat := 60.0 / (max bpm 1).toFloat
  Duration.ofFloatSeconds (bars.toFloat * beatsPerBar.toFloat * secondsPerBeat)

/-- The time between two ticks. -/
def tickSpacing (bpm : Nat) (subdivision : Subdivision) : Duration :=
  Duration.ofFloatSeconds (60.0 / bpm.toFloat / subdivision.multiplier.toFloat)

/-- A tempo with the tick interval that it implies. -/
structure Tempo where
  bpm : Nat
  subdivision : Subdivision
  interval : Duration
  deriving DecidableEq, Repr

namespace Tempo

/-- The tempo nearest to the requested one. -/
def of (bpm : Int) (subdivision : Subdivision) : Tempo :=
  let stored := nearestBpm bpm
  ⟨stored, subdivision, tickSpacing stored subdivision⟩

/-- The tempo that holds when none is given. -/
def initial : Tempo := Tempo.of usualBpm .quarter

/-- Another number of beats per minute, brought into range. -/
def setBpm (t : Tempo) (bpm : Int) : Tempo := Tempo.of bpm t.subdivision

def setSubdivision (t : Tempo) (subdivision : Subdivision) : Tempo :=
  ⟨t.bpm, subdivision, tickSpacing t.bpm subdivision⟩

def ticksPerBar (t : Tempo) : Nat := beatsPerBar * t.subdivision.multiplier

end Tempo

end Rehearsal
