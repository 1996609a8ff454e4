import Rehearsal.Tempo.Basic

/-! # Tempo from taps

  The tempo is estimated from the last few taps. A tap that comes long after the one before it
  begins a new series; a tap that seems to come before it counts as coming at the same time.
-/

namespace Rehearsal

/-- The taps of the current series that still count, oldest first. -/
structure Taps where
  instants : List Instant
  deriving DecidableEq, Repr

namespace Taps

/-- A longer pause than this begins a new series. -/
def longestPause : Duration := Duration.ofSeconds 3

/-- Only so many taps count. -/
def capacity : Nat := 4

def empty : Taps := ⟨[]⟩

def count (t : Taps) : Nat := t.instants.length

def isEmpty (t : Taps) : Bool := t.instants.isEmpty

def span (t : Taps) : Duration := t.instants.getLast?.getD 0 - t.instants.head?.getD 0

/-- The tempo that `count` taps within `span` suggest. Two taps at least are needed, and they
    must not all fall together. -/
def estimate (count : Nat) (span : Duration) : Option Nat :=
  if count < 2 then none
  else
    let average := span.toFloatSeconds / (count - 1).toFloat
    if average ≤ 2.220446049250313e-16 then none
    else some (nearestBpm ((60.0 / average).round.toUInt64.toNat : Int))

/-- The series that a tap at `now` continues: the one so far, or none after a long pause. -/
def series (t : Taps) (now : Instant) : List Instant :=
  match t.instants.getLast? with
  | some last => if longestPause < now - last then [] else t.instants
  | none => []

def lastFew (instants : List Instant) : List Instant :=
  instants.drop (instants.length - capacity)

def tap (t : Taps) (now : Instant) : Taps := ⟨lastFew (t.series now ++ [now])⟩

/-- The tempo that the taps suggest. -/
def bpm? (t : Taps) : Option Nat := estimate t.count t.span

end Taps

end Rehearsal
