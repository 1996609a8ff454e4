import Rehearsal.Settings.Basic
import Rehearsal.Toml.Document

/-! # Reading settings

  A settings file is a TOML document with five sections. Every section and every key may be
  left out, and unknown ones are passed over. A section may also be written as a list of values
  in a fixed order, from which values may be missing at the end.
-/

namespace Rehearsal.Settings

/-! ### Values -/

def count? : Toml.Value → Option Nat
  | .integer n => if 0 ≤ n ∧ n ≤ (maxCount : Int) then some n.toNat else none
  | _ => none

/-- A number; a whole number stands for the nearest floating-point number. -/
def number? : Toml.Value → Option Number.Binary64
  | .float x => some x
  | .integer n => some (.ofInt n)
  | _ => none

def flag? : Toml.Value → Option Bool
  | .boolean b => some b
  | _ => none

def text? : Toml.Value → Option String
  | .string text => some text
  | _ => none

/-- A subdivision: its name, or a table with nothing but its name as a key without content. -/
def subdivision? : Toml.Value → Option Subdivision
  | .string name => Subdivision.ofExactName? name
  | .table _ [(name, .table _ [])] => Subdivision.ofExactName? name
  | .table _ [(name, .array [])] => Subdivision.ofExactName? name
  | _ => none

/-! ### Sections -/

/-- The values of a section, found by their key or by their position. -/
abbrev Section := String → Nat → Option Toml.Value

/-- A section of a document, if it has a form that a section can have. A date in its place
    counts as a section without any known key. -/
def sectionNamed? (document : Toml.Entries) (name : String) : Option Section :=
  match document.get? name with
  | none => some fun _ _ => none
  | some (.table _ entries) => some fun key _ => Toml.Entries.get? entries key
  | some (.array items) => some fun _ position => items[position]?
  | some (.tables elements) => some fun _ position => elements[position]?.map (.table .header)
  | some (.datetime _) => some fun _ _ => none
  | some _ => none

/-- The value of a key that may be missing; one that is there must be understood. -/
def Section.read? {α : Type} (s : Section) (key : String) (position : Nat)
    (understand : Toml.Value → Option α) : Option (Option α) :=
  match s key position with
  | none => some none
  | some v => (understand v).map some

def Layer.ofDocument? (document : Toml.Entries) : Option Layer := do
  let tempo ← sectionNamed? document "tempo"
  let classifier ← sectionNamed? document "classifier"
  let pager ← sectionNamed? document "pager"
  let input ← sectionNamed? document "input"
  let viewer ← sectionNamed? document "viewer"
  pure {
    bpm := ← tempo.read? "bpm" 0 count?
    subdivision := ← tempo.read? "subdivision" 1 subdivision?
    usesModel := ← classifier.read? "use_model" 0 flag?
    threshold := ← classifier.read? "confidence_threshold" 1 number?
    musicDir := ← pager.read? "music_dir" 0 text?
    totalPages := ← pager.read? "total_pages" 1 count?
    wakeWord := ← input.read? "wake_word" 0 text?
    prompt := ← input.read? "prompt" 1 text?
    viewerEnabled := ← viewer.read? "enabled" 0 flag?
    viewerCommand := ← viewer.read? "command" 1 text? }

/-- The layer of settings that the text of a settings file gives. -/
def Layer.ofText? (text : List Char) : Option Layer := (Toml.parse text).bind Layer.ofDocument?

/-- The settings that the text of a settings file leads to. -/
def ofText? (text : List Char) : Option Settings := (Layer.ofText? text).map (·.applyTo initial)

end Rehearsal.Settings
