import Rehearsal.Tempo.Subdivision

/-! # Responses

  What the session says to an intent, and whether the conversation ends with it.
-/

namespace Rehearsal

/-- A sentence for the musician. -/
structure Response where
  text : String
  quits : Bool
  deriving DecidableEq, Repr

namespace Response

/-- A sentence after which the conversation goes on. -/
def say (text : String) : Response := ⟨text, false⟩

def quit (text : String) : Response := ⟨text, true⟩

def control (r : Response) : String := if r.quits then "Quit" else "Continue"

def started : Response := say "Metronome started."

def alreadyRunning : Response := say "Metronome is already running."

def stopped : Response := say "Metronome stopped."

def alreadyStopped : Response := say "Metronome is already stopped."

def tapAgain : Response := say "Tap again to set the tempo."

def tempoIs (bpm : Nat) : Response := say ("Tempo is " ++ toString bpm ++ " BPM.")

def tempoSet (bpm : Nat) : Response := say ("Tempo set to " ++ toString bpm ++ " BPM.")

def askTempo : Response := say "Say a BPM number, like 'set tempo to 120'."

def subdivisionSet (s : Subdivision) : Response := say ("Subdivision set to " ++ s.name ++ ".")

def askSubdivision : Response :=
  say ("Say a subdivision: " ++ ", ".intercalate (Subdivision.all.map (·.name)) ++ ".")

def noScore : Response := say "No PDF loaded."

def pageIs (page : Nat) : Response := say ("Page " ++ toString page ++ ".")

def askPage : Response := say "Say 'go to page N'."

def askBars : Response := say "Say 'turn page in N bars'."

def turnScheduled (bars : Nat) : Response :=
  say ("Okay, turning the page in " ++ toString bars ++ (if bars = 1 then " bar." else " bars."))

def turnRefused : Response := say "Sorry, I couldn't schedule that."

def help : Response :=
  say ("Try: start/stop metronome, set tempo to 120, increase tempo by 5, what's the tempo, "
    ++ "subdivision eighth, tap tempo, next page, previous page, go to page 5, "
    ++ "turn page in 4 bars, quit.")

def notUnderstood : Response := say "Sorry, I didn't understand. Say 'help' for options."

def goodbye : Response := quit "Goodbye."

end Response

end Rehearsal
