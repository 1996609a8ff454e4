import Rehearsal.Metronome.Basic

/-! # Waiting ticks

  Ticks wait in a short queue until they are read. A tick that finds the queue full, or nobody
  to read it, is lost; the tick loop does not notice.
-/

namespace Rehearsal

/-- The ticks that wait to be read. -/
structure TickQueue where
  /-- The waiting ticks, oldest first. -/
  waiting : List Tick
  /-- Whether somebody may still read them. -/
  connected : Bool
  deriving DecidableEq, Repr

namespace TickQueue

/-- How many ticks can wait. -/
def capacity : Nat := 4

def empty : TickQueue := ⟨[], true⟩

/-- Whether a tick offered now would be lost. -/
def loses (q : TickQueue) : Bool := !q.connected || decide (capacity ≤ q.waiting.length)

/-- Put a tick behind the waiting ones, or lose it. -/
def offer (q : TickQueue) (tick : Tick) : TickQueue :=
  if q.loses then q else { q with waiting := q.waiting ++ [tick] }

def offer? (q : TickQueue) (tick : Option Tick) : TickQueue :=
  match tick with
  | some t => q.offer t
  | none => q

def drain (q : TickQueue) : TickQueue × List Tick := ({ q with waiting := [] }, q.waiting)

/-- Nobody will read ticks any more. -/
def disconnect (_ : TickQueue) : TickQueue := ⟨[], false⟩

theorem length_offer_le (q : TickQueue) (tick : Tick) (h : q.waiting.length ≤ capacity) :
    (q.offer tick).waiting.length ≤ capacity := by
  unfold offer
  split
  · exact h
  · rename_i hl
    simp only [loses, Bool.or_eq_true, Bool.not_eq_true', decide_eq_true_eq, not_or,
      Bool.not_eq_false] at hl
    simp only [List.length_append, List.length_singleton]
    omega

end TickQueue

end Rehearsal
