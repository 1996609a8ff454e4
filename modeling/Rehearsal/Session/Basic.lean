import Rehearsal.Metronome.Basic
import Rehearsal.Pager
import Rehearsal.Session.TurnSlot
import Rehearsal.Tempo.Taps

/-! # The session

  All that a practice session changes: the metronome, the page of the score, the page turn that
  was asked for, and the recent taps. A version number counts the changes.
-/

namespace Rehearsal

/-- The state of a practice session. -/
structure Session where
  metronome : Metronome
  pager : Option Pager
  /-- The page turn that was asked for last and is still to come. -/
  scheduled : Option PageTurn
  taps : Taps
  /-- How many changes there were, as a word of sixty-four bits. -/
  version : UInt64
  deriving DecidableEq, Repr

namespace Session

def start (metronome : Metronome) (pager : Option Pager) : Session :=
  { metronome, pager, scheduled := none, taps := .empty, version := 0 }

/-- One more change. -/
def bump (s : Session) : Session := { s with version := s.version + 1 }

/-- Whether the turn with this number is the one still to come. -/
def isScheduled (s : Session) (id : Nat) : Bool := s.scheduled.any fun t => t.id == id

def page? (s : Session) : Option Nat := s.pager.map (·.current)

/-- The session as status texts show it. -/
def describe (s : Session) : String :=
  "SessionManager \x7b version: " ++ toString s.version.toNat ++ ", .. \x7d"

end Session

end Rehearsal
