import Rehearsal.Settings.Basic
import Rehearsal.Toml.Writer

/-! # Writing settings

  `Settings.text` is the settings file of given settings: all five sections, and every setting
  that has a value. `exampleText` is the file for a musician to begin with: it has comments,
  and gives every setting the value that holds without it.
-/

namespace Rehearsal.Settings

open Toml

def optionalLine {α : Type} (key : String) (write : α → List Char) (value : Option α) :
    List (List Char) :=
  (value.map fun v => writeLine key (write v)).toList

def sections (s : Settings) : List (List Char) :=
  [ writeTable "tempo" [
      writeLine "bpm" (Number.digitsOf s.bpm),
      writeLine "subdivision" (writeString s.subdivision.name)],
    writeTable "classifier" [
      writeLine "use_model" (writeBool s.usesModel),
      writeLine "confidence_threshold" (writeFloat s.threshold)],
    writeTable "pager" (
      writeLine "music_dir" (writeString s.musicDir)
        :: optionalLine "total_pages" Number.digitsOf s.totalPages),
    writeTable "input" (
      optionalLine "wake_word" writeString s.wakeWord
        ++ [writeLine "prompt" (writeString s.prompt)]),
    writeTable "viewer" (
      writeLine "enabled" (writeBool s.viewerEnabled)
        :: optionalLine "command" writeString s.viewerCommand)]

/-- The settings file, with a blank line between sections. -/
def text (s : Settings) : List Char := ['\n'].intercalate s.sections

/-- The lines of the settings file to begin with. -/
def exampleLines : List String :=
  [ "# maestro configuration file",
    "",
    "[tempo]",
    "# Initial tempo in BPM (20-300)",
    "bpm = 100",
    "",
    "# Ticks per beat: \"quarter\", \"eighth\", \"triplet\" or \"sixteenth\"",
    "subdivision = \"quarter\"",
    "",
    "[classifier]",
    "# Train the statistical intent model at startup",
    "use_model = true",
    "",
    "# Minimum model probability before falling back to the pattern rules",
    "confidence_threshold = 0.45",
    "",
    "[pager]",
    "# Directory searched for a PDF when none is given on the command line",
    "music_dir = \"music\"",
    "",
    "# Page count of the score, if known; page navigation stops at the last page",
    "# total_pages = 12",
    "",
    "[input]",
    "# Only act on utterances that contain this word (optional)",
    "# wake_word = \"maestro\"",
    "",
    "# Prompt shown before each line of input",
    "prompt = \"You: \"",
    "",
    "[viewer]",
    "# Open pages in a PDF viewer",
    "enabled = true",
    "",
    "# Viewer command; receives a file://...#page=N URL (default: xdg-open / open)",
    "# command = \"firefox\"" ]

/-- The settings file to begin with. -/
def exampleText : String := String.join (exampleLines.map (· ++ "\n"))

end Rehearsal.Settings
