import Rehearsal.Metronome.TickQueue

/-! # Runs of a metronome

  A `MetronomeRun` is a metronome with a clock and the queue of its ticks. The clock stands
  still but for explicit jumps. After every operation, and after every single jump, the tick
  loop takes one look.
-/

namespace Rehearsal

/-- A metronome, its clock and its waiting ticks. -/
structure MetronomeRun where
  clock : Instant
  metronome : Metronome
  queue : TickQueue
  deriving DecidableEq, Repr

/-- What can be done to a metronome. -/
inductive MetronomeOp where
  | start
  | stop
  | setBpm (bpm : Int)
  | increase (delta : Nat)
  | decrease (delta : Nat)
  | nameSubdivision (name : List Char)
  /-- Let the clock jump so many times by so much. -/
  | advance (distance : Duration) (times : Nat)
  /-- Stop listening to ticks. -/
  | deafen
  | shutdown
  /-- Only look. -/
  | nothing
  deriving DecidableEq, Repr

/-- What an operation answers. -/
inductive MetronomeAnswer where
  | done
  /-- Whether the transport changed. -/
  | changed (yes : Bool)
  | bpm (stored : Nat)
  | subdivision (named : Option Subdivision)
  deriving DecidableEq, Repr

namespace MetronomeRun

/-- A stopped metronome at the beginning of time. -/
def atTempo (tempo : Tempo) : MetronomeRun := ⟨0, .atTempo tempo, .empty⟩

/-- One look of the tick loop. The tick that it gives, if any, is offered to the queue. -/
def look (r : MetronomeRun) : MetronomeRun × List Tick :=
  let (metronome, tick) := r.metronome.look r.clock
  ({ r with metronome, queue := r.queue.offer? tick }, tick.toList)

/-- So many jumps of the clock, with a look after each. -/
def jumps (r : MetronomeRun) (distance : Duration) : Nat → MetronomeRun × List Tick
  | 0 => (r, [])
  | n + 1 =>
    let (r, first) := look { r with clock := r.clock + distance }
    let (r, rest) := jumps r distance n
    (r, first ++ rest)

/-- An operation other than a jump of the clock, before the look that follows it. -/
def act (r : MetronomeRun) : MetronomeOp → MetronomeRun × MetronomeAnswer
  | .start => let (m, yes) := r.metronome.start; ({ r with metronome := m }, .changed yes)
  | .stop => let (m, yes) := r.metronome.stop; ({ r with metronome := m }, .changed yes)
  | .setBpm bpm => let m := r.metronome.setBpm bpm; ({ r with metronome := m }, .bpm m.tempo.bpm)
  | .increase n => let m := r.metronome.increase n; ({ r with metronome := m }, .bpm m.tempo.bpm)
  | .decrease n => let m := r.metronome.decrease n; ({ r with metronome := m }, .bpm m.tempo.bpm)
  | .nameSubdivision name =>
    let (m, named) := r.metronome.nameSubdivision name
    ({ r with metronome := m }, .subdivision named)
  | .deafen => ({ r with queue := r.queue.disconnect }, .done)
  | .shutdown => ({ r with metronome := r.metronome.shutdown }, .done)
  | .advance .. | .nothing => (r, .done)

/-- One operation with the looks that follow it: the run after it, its answer, and the ticks
    that the loop gave. -/
def step (r : MetronomeRun) (op : MetronomeOp) : MetronomeRun × MetronomeAnswer × List Tick :=
  match op with
  | .advance distance times =>
    let (r, ticks) := r.jumps distance times
    (r, .done, ticks)
  | op =>
    let (r, answer) := r.act op
    let (r, ticks) := r.look
    (r, answer, ticks)

/-- Read the waiting ticks. -/
def drain (r : MetronomeRun) : MetronomeRun × List Tick :=
  let (queue, ticks) := r.queue.drain
  ({ r with queue }, ticks)

end MetronomeRun

end Rehearsal
