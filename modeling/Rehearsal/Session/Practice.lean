import Rehearsal.Metronome.TickQueue
import Rehearsal.Session.Assistant

/-! # Runs of a session

  A `Practice` is an assistant with a clock and the queue of its ticks. The clock stands still
  but for explicit jumps. After every step, and after every single jump, all work in the
  background is done: the tick loop takes one look and the turn slot takes one look.
-/

namespace Rehearsal

/-- A session under way. -/
structure Practice where
  clock : Instant
  assistant : Assistant
  queue : TickQueue
  deriving DecidableEq, Repr

/-- One step of a session. -/
inductive PracticeStep where
  | intent (intent : Intent)
  /-- Let the clock jump so many times by so much. -/
  | advance (distance : Duration) (times : Nat)
  | showPage
  | shutdown
  | forgetScheduled
  | load (pager : Option Pager)
  /-- Only look. -/
  | nothing
  deriving DecidableEq, Repr

/-- What a step brings about besides the new state. -/
structure PracticeEvents where
  response : Option Response
  page : Option Nat
  announced : List String
  ticks : List Tick
  deriving DecidableEq, Repr

namespace PracticeEvents

/-- Nothing. -/
def none : PracticeEvents := ⟨.none, .none, [], []⟩

def followedBy (e : PracticeEvents) (later : PracticeEvents) : PracticeEvents :=
  { e with announced := e.announced ++ later.announced, ticks := e.ticks ++ later.ticks }

end PracticeEvents

namespace Practice

/-- A session at the beginning of time. -/
def start (assistant : Assistant) : Practice := ⟨0, assistant, .empty⟩

def lookAtTicks (p : Practice) : Practice × List Tick :=
  let (metronome, tick) := p.assistant.session.metronome.look p.clock
  let session := { p.assistant.session with metronome }
  ({ p with assistant := { p.assistant with session }, queue := p.queue.offer? tick },
    tick.toList)

/-- The turn slot takes one look, and a turn that fires is carried out. -/
def lookAtTurn (p : Practice) : Practice × List String :=
  match p.assistant.slot.look p.clock with
  | (slot, some turn) =>
    let (assistant, announcement) := { p.assistant with slot }.fire turn
    ({ p with assistant }, announcement.toList)
  | (slot, none) => ({ p with assistant := { p.assistant with slot } }, [])

/-- All work in the background is done. -/
def look (p : Practice) : Practice × PracticeEvents :=
  let (p, ticks) := p.lookAtTicks
  let (p, announced) := p.lookAtTurn
  (p, { PracticeEvents.none with announced, ticks })

/-- So many jumps of the clock, with a look after each. -/
def jumps (p : Practice) (distance : Duration) : Nat → Practice × PracticeEvents
  | 0 => (p, .none)
  | n + 1 =>
    let (p, first) := look { p with clock := p.clock + distance }
    let (p, rest) := jumps p distance n
    (p, first.followedBy rest)

/-- A step other than a jump of the clock, before the look that follows it. -/
def act (p : Practice) : PracticeStep → Practice × PracticeEvents
  | .intent intent =>
    let (assistant, response) := p.assistant.carryOut p.clock intent
    ({ p with assistant }, { PracticeEvents.none with response := some response })
  | .showPage =>
    let (assistant, page) := p.assistant.showCurrent
    ({ p with assistant }, { PracticeEvents.none with page })
  | .shutdown => ({ p with assistant := p.assistant.shutdown }, .none)
  | .forgetScheduled => ({ p with assistant := p.assistant.forgetScheduled }, .none)
  | .load pager => ({ p with assistant := p.assistant.load pager }, .none)
  | .advance .. | .nothing => (p, .none)

/-- One step with the looks that follow it. -/
def step (p : Practice) (s : PracticeStep) : Practice × PracticeEvents :=
  match s with
  | .advance distance times => p.jumps distance times
  | s =>
    let (p, events) := p.act s
    let (p, later) := p.look
    (p, events.followedBy later)

/-- Read the waiting ticks. -/
def drain (p : Practice) : Practice × List Tick :=
  let (queue, ticks) := p.queue.drain
  ({ p with queue }, ticks)

end Practice

end Rehearsal
