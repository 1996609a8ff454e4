import Rehearsal.Metronome.Basic

/-! # The console

  Ticks and sentences become lines of text. The first tick of a bar shows the tempo, the other
  beats are capitalised, and the ticks between beats are not.

  Ticks and announcements come from two sources; either may end, and what comes from it
  afterwards is lost.
-/

namespace Rehearsal

namespace Console

def sentence (text : String) : String := "[Assistant] " ++ text

def tick (t : Tick) : String :=
  if t.count = 1 then
    "[Tick] 1 (" ++ toString t.bpm ++ " BPM, " ++ t.subdivision.name ++ ")"
  else if t.onBeat then "[Tick] " ++ toString t.count
  else "[tick] " ++ toString t.count

def line (text : String) : String := text ++ "\n"

end Console

/-- Which sources still print. -/
structure Console where
  ticks : Bool
  announcements : Bool
  deriving DecidableEq, Repr

/-- Something that reaches the console. -/
inductive ConsoleEvent where
  | tick (tick : Tick)
  | announce (text : String)
  | say (text : String)
  | endTicks
  | endAnnouncements
  deriving DecidableEq, Repr

namespace Console

/-- A console with both sources. -/
def fresh : Console := ⟨true, true⟩

/-- What an event prints, and the console after it. -/
def handle (c : Console) : ConsoleEvent → Console × String
  | .tick t => (c, if c.ticks then line (tick t) else "")
  | .announce text => (c, if c.announcements then line (sentence text) else "")
  | .say text => (c, line (sentence text))
  | .endTicks => ({ c with ticks := false }, "")
  | .endAnnouncements => ({ c with announcements := false }, "")

end Console

end Rehearsal
