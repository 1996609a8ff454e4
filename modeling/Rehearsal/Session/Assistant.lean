import Rehearsal.Intent
import Rehearsal.Session.Basic
import Rehearsal.Session.Response
import Rehearsal.Session.Viewer

/-! # Carrying out intents

  An `Assistant` is a session together with the slot of its pending page turn and its viewer.
  `carryOut` carries out an intent and says what to answer; an intent that lacks a value, or
  that needs a score where none is loaded, is answered and changes nothing.

  `fire` is what happens when the time of a page turn has come. A turn that was replaced,
  cancelled or carried out in the meantime is no longer the scheduled one, and firing it changes
  nothing.
-/

namespace Rehearsal

/-- A session with what it acts through. -/
structure Assistant where
  session : Session
  slot : TurnSlot
  viewer : Viewer
  deriving DecidableEq, Repr

namespace Assistant

/-- The change of tempo that is meant when no number is heard. -/
def defaultStep : Nat := 5

def start (session : Session) (failing : Bool) : Assistant :=
  ⟨session, .empty, .fresh failing⟩

def change (a : Assistant) (session : Session) : Assistant := { a with session := session.bump }

def startMetronome (a : Assistant) : Assistant × Response :=
  let (metronome, changed) := a.session.metronome.start
  if changed then (a.change { a.session with metronome }, .started)
  else (a, .alreadyRunning)

def stopMetronome (a : Assistant) : Assistant × Response :=
  let (metronome, changed) := a.session.metronome.stop
  if changed then (a.change { a.session with metronome }, .stopped)
  else (a, .alreadyStopped)

/-- Set the tempo from a tap. A tap that is not yet enough is kept and counts as no change. -/
def tapTempo (a : Assistant) (now : Instant) : Assistant × Response :=
  let taps := a.session.taps.tap now
  match taps.bpm? with
  | some bpm =>
    let metronome := a.session.metronome.setBpm bpm
    (a.change { a.session with taps, metronome }, .tempoSet metronome.tempo.bpm)
  | none => ({ a with session := { a.session with taps } }, .tapAgain)

/-- Give the metronome another tempo. A spoken tempo ends the series of taps. -/
def setTempo (a : Assistant) (metronome : Metronome) : Assistant × Response :=
  (a.change { a.session with taps := .empty, metronome }, .tempoSet metronome.tempo.bpm)

def setSubdivision (a : Assistant) (s : Subdivision) : Assistant × Response :=
  (a.change { a.session with metronome := a.session.metronome.setSubdivision s },
    .subdivisionSet s)

def turnTo (a : Assistant) (move : Pager → Pager) : Assistant × Response :=
  match a.session.pager with
  | none => (a, .noScore)
  | some pager =>
    let pager := move pager
    ({ a with viewer := a.viewer.showPage pager }.change { a.session with pager := some pager },
      .pageIs pager.current)

/-- Schedule a page turn at the present tempo, in place of one that is still to come. -/
def scheduleTurn (a : Assistant) (now : Instant) (bars : Nat) : Assistant × Response :=
  match a.session.pager with
  | none => (a, .noScore)
  | some _ =>
    let delay := timeOfBars bars a.session.metronome.tempo.bpm
    match a.slot.arm now delay bars with
    | (slot, .ok turn) =>
      ({ a with slot }.change { a.session with scheduled := some turn }, .turnScheduled bars)
    | (slot, .error _) => ({ a with slot }, .turnRefused)

/-- Ask for a value, or say that there is no score. -/
def askAboutScore (a : Assistant) (question : Response) : Response :=
  if a.session.pager.isNone then .noScore else question

/-- Carry out an intent. -/
def carryOut (a : Assistant) (now : Instant) (intent : Intent) : Assistant × Response :=
  let metronome := a.session.metronome
  match intent with
  | .startMetronome => a.startMetronome
  | .stopMetronome => a.stopMetronome
  | .tapTempo => a.tapTempo now
  | .queryTempo => (a, .tempoIs metronome.tempo.bpm)
  | .setTempo (some bpm) => a.setTempo (metronome.setBpm bpm)
  | .setTempo none => (a, .askTempo)
  | .adjustTempo delta .up => a.setTempo (metronome.increase (delta.getD defaultStep))
  | .adjustTempo delta .down => a.setTempo (metronome.decrease (delta.getD defaultStep))
  | .setSubdivision (some s) => a.setSubdivision s
  | .setSubdivision none => (a, .askSubdivision)
  | .nextPage => a.turnTo Pager.next
  | .prevPage => a.turnTo Pager.prev
  | .gotoPage (some page) => a.turnTo (·.goto page)
  | .gotoPage none => (a, a.askAboutScore .askPage)
  | .schedulePageTurn (some (bars + 1)) => a.scheduleTurn now (bars + 1)
  | .schedulePageTurn _ => (a, a.askAboutScore .askBars)
  | .help => (a, .help)
  | .quit => (a, .goodbye)
  | .unknown => (a, .notUnderstood)

/-- Carry out a page turn whose time has come, if it is still the scheduled one. The text is
    what to announce. -/
def fire (a : Assistant) (turn : PageTurn) : Assistant × Option String :=
  if a.session.isScheduled turn.id then
    let session := { a.session with scheduled := none }
    match session.pager with
    | none => ({ a with session }, none)
    | some pager =>
      let pager := pager.next
      ({ a with viewer := a.viewer.showPage pager }.change { session with pager := some pager },
        some (Response.pageIs pager.current).text)
  else (a, none)

/-- Show the current page. The answer is the page, if a score is loaded. -/
def showCurrent (a : Assistant) : Assistant × Option Nat :=
  match a.session.pager with
  | none => (a, none)
  | some pager => ({ a with viewer := a.viewer.showPage pager }, some pager.current)

/-- Forget the scheduled turn; the slot still holds it. -/
def forgetScheduled (a : Assistant) : Assistant :=
  { a with session := { a.session with scheduled := none } }

/-- Load another score, or none. -/
def load (a : Assistant) (pager : Option Pager) : Assistant :=
  { a with session := { a.session with pager } }

/-- Drop the pending page turn and end everything that runs in the background. -/
def shutdown (a : Assistant) : Assistant :=
  { a with slot := a.slot.cancel.1.shutdown }.change
    { a.session with scheduled := none, metronome := a.session.metronome.shutdown }

end Assistant

end Rehearsal
