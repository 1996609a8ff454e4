import Rehearsal.Text.Lowercase
import Rehearsal.Text.Pieces

/-! # Subdivisions of the beat

  A subdivision says how many ticks a beat has. Each has a spoken name, which is found again
  in any case and with white space around it.
-/

namespace Rehearsal

open Text

/-- Ticks per beat, by name. -/
inductive Subdivision where
  | quarter
  | eighth
  | triplet
  | sixteenth
  deriving DecidableEq, Repr

namespace Subdivision

/-- All subdivisions, coarsest first. -/
def all : List Subdivision := [.quarter, .eighth, .triplet, .sixteenth]

/-- Ticks per beat. -/
def multiplier : Subdivision → Nat
  | .quarter => 1
  | .eighth => 2
  | .triplet => 3
  | .sixteenth => 4

def name : Subdivision → String
  | .quarter => "quarter"
  | .eighth => "eighth"
  | .triplet => "triplet"
  | .sixteenth => "sixteenth"

/-- The name of the constructor, as status texts show it. -/
def label : Subdivision → String
  | .quarter => "Quarter"
  | .eighth => "Eighth"
  | .triplet => "Triplet"
  | .sixteenth => "Sixteenth"

/-- The subdivision with a spoken name, white space around it and the case of basic Latin
    letters left out of account. -/
def ofName? (text : List Char) : Option Subdivision :=
  all.find? fun s => sameLetters s.name.toList (trim text)

def ofExactName? (name : String) : Option Subdivision := all.find? fun s => s.name == name

/-- What is said of a name that names no subdivision. -/
def unknownMessage (text : String) : String := "unknown subdivision '" ++ text ++ "'"

theorem mem_all (s : Subdivision) : s ∈ all := by cases s <;> decide

theorem multiplier_pos (s : Subdivision) : 0 < s.multiplier := by cases s <;> decide

end Subdivision

end Rehearsal
