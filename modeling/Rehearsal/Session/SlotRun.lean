import Rehearsal.Session.TurnSlot

/-! # Runs of a turn slot

  A `SlotRun` is a turn slot with a clock that stands still but for explicit jumps. After every
  operation, and after every single jump, the slot takes one look.
-/

namespace Rehearsal

/-- A turn slot and its clock. -/
structure SlotRun where
  clock : Instant
  slot : TurnSlot
  deriving DecidableEq, Repr

/-- What can be done to a turn slot. -/
inductive SlotOp where
  | arm (delay : Duration) (bars : Nat)
  | cancel
  /-- Let the clock jump so many times by so much. -/
  | advance (distance : Duration) (times : Nat)
  | shutdown
  deriving DecidableEq, Repr

/-- What an operation answers. -/
inductive SlotAnswer where
  | done
  /-- The turn that was armed, or why none was. -/
  | armed (result : Except Failure PageTurn)
  /-- Whether the slot could be asked to drop its turn. -/
  | cancelled (result : Except Failure Unit)

namespace SlotRun

def initial : SlotRun := ⟨0, .empty⟩

/-- One look of the slot, with the turn that fires. -/
def look (r : SlotRun) : SlotRun × List PageTurn :=
  let (slot, fired) := r.slot.look r.clock
  ({ r with slot }, fired.toList)

/-- So many jumps of the clock, with a look after each. -/
def jumps (r : SlotRun) (distance : Duration) : Nat → SlotRun × List PageTurn
  | 0 => (r, [])
  | n + 1 =>
    let (r, first) := look { r with clock := r.clock + distance }
    let (r, rest) := jumps r distance n
    (r, first ++ rest)

/-- An operation other than a jump of the clock, before the look that follows it. -/
def act (r : SlotRun) : SlotOp → SlotRun × SlotAnswer
  | .arm delay bars =>
    let (slot, result) := r.slot.arm r.clock delay bars
    ({ r with slot }, .armed result)
  | .cancel => let (slot, result) := r.slot.cancel; ({ r with slot }, .cancelled result)
  | .shutdown => ({ r with slot := r.slot.shutdown }, .done)
  | .advance .. => (r, .done)

/-- One operation with the looks that follow it: the run after it, its answer, and the turns
    that fired. -/
def step (r : SlotRun) (op : SlotOp) : SlotRun × SlotAnswer × List PageTurn :=
  match op with
  | .advance distance times =>
    let (r, fired) := r.jumps distance times
    (r, .done, fired)
  | op =>
    let (r, answer) := r.act op
    let (r, fired) := r.look
    (r, answer, fired)

end SlotRun

end Rehearsal
