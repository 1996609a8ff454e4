import Rehearsal.Tempo.Basic

/-! # The metronome

  A metronome has a tempo, a transport that is running or stopped, and a tick loop. The loop is
  looked at again and again; each look says what the time is and gives at most one tick.

  - A start that follows a stop begins a new bar, and its first tick is due at once.
  - The next tick is due one interval after the tick before it was given, not after it was due,
    so ticks that were missed are never made up for.
  - Tempo and subdivision are read when a tick is given; a tick that is already due keeps its
    time.

  Starts are counted without an end, where a counter of 64 bits would begin again at some time.
-/

namespace Rehearsal

/-- One tick. -/
structure Tick where
  /-- The place in the bar, counted in ticks from one. -/
  count : Nat
  onBeat : Bool
  bpm : Nat
  subdivision : Subdivision
  instant : Instant
  deriving DecidableEq, Repr

/-- What the tick loop remembers from one look to the next. -/
structure TickLoop where
  /-- The place in the bar of the last tick, zero before the first one. -/
  count : Nat
  /-- When the next tick is due, if the loop has begun to wait for it. -/
  nextDue : Option Instant
  /-- The last start that the loop has noticed. -/
  seenStarts : Nat
  deriving DecidableEq, Repr

/-- A metronome. -/
structure Metronome where
  tempo : Tempo
  running : Bool
  /-- How often the transport has been started. -/
  starts : Nat
  loop : TickLoop
  /-- Whether the tick loop has ended for good. -/
  ended : Bool
  deriving DecidableEq, Repr

namespace Metronome

def atTempo (tempo : Tempo) : Metronome :=
  { tempo, running := false, starts := 0, loop := ⟨0, none, 0⟩, ended := false }

/-- Start the transport. The answer says whether it was stopped before. -/
def start (m : Metronome) : Metronome × Bool :=
  if m.running then (m, false)
  else ({ m with running := true, starts := m.starts + 1 }, true)

/-- Stop the transport. The answer says whether it was running before. -/
def stop (m : Metronome) : Metronome × Bool := ({ m with running := false }, m.running)

/-- Set the beats per minute, brought into range. -/
def setBpm (m : Metronome) (bpm : Int) : Metronome := { m with tempo := m.tempo.setBpm bpm }

/-- Add to the beats per minute. -/
def increase (m : Metronome) (delta : Nat) : Metronome := m.setBpm ((m.tempo.bpm : Int) + delta)

/-- Take from the beats per minute. -/
def decrease (m : Metronome) (delta : Nat) : Metronome := m.setBpm ((m.tempo.bpm : Int) - delta)

def setSubdivision (m : Metronome) (subdivision : Subdivision) : Metronome :=
  { m with tempo := m.tempo.setSubdivision subdivision }

/-- Set the subdivision by its spoken name; an unknown name changes nothing. -/
def nameSubdivision (m : Metronome) (name : List Char) : Metronome × Option Subdivision :=
  match Subdivision.ofName? name with
  | some s => (m.setSubdivision s, some s)
  | none => (m, none)

/-- Stop the transport and end the tick loop. -/
def shutdown (m : Metronome) : Metronome := { m with running := false, ended := true }

/-- What the loop remembers once it has noticed the last start: a new start forgets the bar
    and the tick that was waited for. -/
def noticed (m : Metronome) : TickLoop :=
  if m.loop.seenStarts = m.starts then m.loop else ⟨0, none, m.starts⟩

/-- The tick given at `now`, after the tick with the given place in its bar. -/
def tickAfter (tempo : Tempo) (count : Nat) (now : Instant) : Tick :=
  let next := count % tempo.ticksPerBar + 1
  { count := next
    onBeat := (next - 1) % tempo.subdivision.multiplier == 0
    bpm := tempo.bpm
    subdivision := tempo.subdivision
    instant := now }

/-- One look of the tick loop. -/
def look (m : Metronome) (now : Instant) : Metronome × Option Tick :=
  if m.ended then (m, none)
  else if !m.running then ({ m with loop := { m.loop with nextDue := none } }, none)
  else
    let loop := m.noticed
    let due := loop.nextDue.getD now
    if now < due then ({ m with loop := { loop with nextDue := some due } }, none)
    else
      let tick := tickAfter m.tempo loop.count now
      let loop := { loop with count := tick.count, nextDue := some (now + m.tempo.interval) }
      ({ m with loop }, some tick)

/-- The state of the transport in a word. -/
def transport (m : Metronome) : String := if m.running then "Running" else "Stopped"

/-- A tempo and a transport as status texts show them. -/
def describe (m : Metronome) : String :=
  "Metronome \x7b tempo: TempoState \x7b bpm: " ++ toString m.tempo.bpm
    ++ ", subdivision: " ++ m.tempo.subdivision.label
    ++ ", tick_interval: " ++ m.tempo.interval.brief
    ++ " \x7d, transport: " ++ m.transport ++ ", .. \x7d"

end Metronome

end Rehearsal
