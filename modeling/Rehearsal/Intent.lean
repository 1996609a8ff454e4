import Rehearsal.Number.Decimal
import Rehearsal.Tempo.Subdivision

/-! # Intents

  An `Intent` is what a musician asks for, with the values that were heard; a value that was
  not heard is `none`, and the session asks for it. Its `Kind` is the intent without the
  values.
-/

namespace Rehearsal

/-- Which way a tempo changes. -/
inductive Direction where
  | up
  | down
  deriving DecidableEq, Repr

/-- What a musician asks for. -/
inductive Intent where
  | startMetronome
  | stopMetronome
  | tapTempo
  | queryTempo
  | setTempo (bpm : Option Nat)
  | adjustTempo (delta : Option Nat) (direction : Direction)
  | setSubdivision (subdivision : Option Subdivision)
  | nextPage
  | prevPage
  | gotoPage (page : Option Nat)
  | schedulePageTurn (bars : Option Nat)
  | help
  | quit
  | unknown
  deriving DecidableEq, Repr

/-- What kind of thing a musician asks for. -/
inductive Kind where
  | startMetronome
  | stopMetronome
  | tapTempo
  | queryTempo
  | setTempo
  | increaseTempo
  | decreaseTempo
  | setSubdivision
  | nextPage
  | prevPage
  | gotoPage
  | schedulePageTurn
  | help
  | quit
  | unknown
  deriving DecidableEq, Repr

namespace Kind

def all : List Kind :=
  [.startMetronome, .stopMetronome, .tapTempo, .queryTempo, .setTempo, .increaseTempo,
    .decreaseTempo, .setSubdivision, .nextPage, .prevPage, .gotoPage, .schedulePageTurn, .help,
    .quit, .unknown]

def place (k : Kind) : Nat := all.idxOf k

instance : LT Kind := ⟨fun a b => a.place < b.place⟩

instance : DecidableLT Kind := fun a b => inferInstanceAs (Decidable (a.place < b.place))

def name : Kind → String
  | .startMetronome => "start_metronome"
  | .stopMetronome => "stop_metronome"
  | .tapTempo => "tap_tempo"
  | .queryTempo => "query_tempo"
  | .setTempo => "set_tempo"
  | .increaseTempo => "increase_tempo"
  | .decreaseTempo => "decrease_tempo"
  | .setSubdivision => "set_subdivision"
  | .nextPage => "next_page"
  | .prevPage => "prev_page"
  | .gotoPage => "goto_page"
  | .schedulePageTurn => "schedule_page_turn"
  | .help => "help"
  | .quit => "quit"
  | .unknown => "unknown"

def ofName? (name : String) : Option Kind := all.find? fun k => k.name == name

end Kind

namespace Intent

def kind : Intent → Kind
  | .startMetronome => .startMetronome
  | .stopMetronome => .stopMetronome
  | .tapTempo => .tapTempo
  | .queryTempo => .queryTempo
  | .setTempo _ => .setTempo
  | .adjustTempo _ .up => .increaseTempo
  | .adjustTempo _ .down => .decreaseTempo
  | .setSubdivision _ => .setSubdivision
  | .nextPage => .nextPage
  | .prevPage => .prevPage
  | .gotoPage _ => .gotoPage
  | .schedulePageTurn _ => .schedulePageTurn
  | .help => .help
  | .quit => .quit
  | .unknown => .unknown

/-- A value that may be missing, as status texts show it. -/
def slot (value : Option String) : String :=
  match value with
  | some v => "Some(" ++ v ++ ")"
  | none => "None"

/-- An intent as status texts show it. -/
def describe : Intent → String
  | .startMetronome => "StartMetronome"
  | .stopMetronome => "StopMetronome"
  | .tapTempo => "TapTempo"
  | .queryTempo => "QueryTempo"
  | .setTempo bpm => fields "SetTempo" [("bpm", slot (bpm.map toString))]
  | .adjustTempo delta direction =>
    fields "AdjustTempo" [("delta", slot (delta.map toString)), ("direction", way direction)]
  | .setSubdivision subdivision =>
    fields "SetSubdivision" [("subdivision", slot (subdivision.map Subdivision.label))]
  | .nextPage => "NextPage"
  | .prevPage => "PrevPage"
  | .gotoPage page => fields "GotoPage" [("page", slot (page.map toString))]
  | .schedulePageTurn bars => fields "SchedulePageTurn" [("bars", slot (bars.map toString))]
  | .help => "Help"
  | .quit => "Quit"
  | .unknown => "Unknown"
where
  fields (name : String) (items : List (String × String)) : String :=
    name ++ " \x7b " ++ ", ".intercalate (items.map fun (key, value) => key ++ ": " ++ value)
      ++ " \x7d"
  way : Direction → String
    | .up => "Up"
    | .down => "Down"

end Intent

/-- An intent with the probability that the statistical model gave it, if the model chose
    it. -/
structure Classified where
  intent : Intent
  /-- The probability, between zero and one. -/
  confidence : Option Float

namespace Classified

/-- An intent and its confidence to two places, as status texts show them. -/
def describe (c : Classified) : String :=
  match c.confidence with
  | none => c.intent.describe
  | some p => c.intent.describe ++ " (confidence " ++ (Number.Binary64.ofFloat p).fixed 2 ++ ")"

end Classified

end Rehearsal
