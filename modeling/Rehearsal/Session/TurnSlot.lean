import Rehearsal.Duration
import Rehearsal.Failure

/-! # The pending page turn

  A `TurnSlot` holds at most one page turn that is waiting for its time. Arming a new turn
  drops the one before it. Turns are numbered in the order in which they are asked for, and a
  number is used up even when the slot has ended.

  The slot is looked at again and again; a look lets the pending turn fire once it is due.

  Numbers of turns never run out, and no delay is too long for the clock. Both are idealised: with
  numbers of 64 bits the first would hold for more turns than anybody schedules, and a delay beyond
  the end of a real clock would use up its number without a turn to show for it.
-/

namespace Rehearsal

/-- A page turn that waits for its time. -/
structure PageTurn where
  /-- Its number; later turns have larger ones. -/
  id : Nat
  delay : Duration
  due : Instant
  /-- The number of bars that the delay was computed from. -/
  bars : Nat
  deriving DecidableEq, Repr

/-- How long a turn still waits. -/
def PageTurn.remaining (t : PageTurn) (now : Instant) : Duration := t.due - now

/-- The place of the one pending page turn. -/
structure TurnSlot where
  nextId : Nat
  pending : Option PageTurn
  ended : Bool
  deriving DecidableEq, Repr

namespace TurnSlot

/-- A slot in which nothing waits yet. -/
def empty : TurnSlot := ⟨1, none, false⟩

def endedFailure : Failure := .closed "action slot"

/-- Arm a turn in place of the pending one. -/
def arm (s : TurnSlot) (now : Instant) (delay : Duration) (bars : Nat) :
    TurnSlot × Except Failure PageTurn :=
  let turn : PageTurn := ⟨s.nextId, delay, now + delay, bars⟩
  if s.ended then ({ s with nextId := s.nextId + 1 }, .error endedFailure)
  else ({ s with nextId := s.nextId + 1, pending := some turn }, .ok turn)

/-- Drop the pending turn. -/
def cancel (s : TurnSlot) : TurnSlot × Except Failure Unit :=
  if s.ended then (s, .error endedFailure) else ({ s with pending := none }, .ok ())

def shutdown (s : TurnSlot) : TurnSlot := { s with pending := none, ended := true }

/-- One look: the pending turn fires if it is due. -/
def look (s : TurnSlot) (now : Instant) : TurnSlot × Option PageTurn :=
  match s.pending with
  | some turn => if turn.due ≤ now then ({ s with pending := none }, some turn) else (s, none)
  | none => (s, none)

end TurnSlot

end Rehearsal
