import Rehearsal.CommandLine.Options
import Rehearsal.Conversation.Basic
import Rehearsal.Files.Score
import Rehearsal.Settings.Store

/-! # Starting the program

  `start` reads the command line and does what it asks for. A practice session is only
  prepared: the settings are gathered, the score is found, the opening lines are composed, and
  the conversation that begins then is handed to the caller, who owns the input.
-/

namespace Rehearsal.CommandLine

/-- Why the program ends without having done what was asked. -/
inductive Complaint where
  | settingsFile (path : List Char)
  | failure (failure : Failure)
  deriving DecidableEq, Repr

/-- The line that tells why. -/
def Complaint.line : Complaint → String
  | .settingsFile path => "Error: Failed to load config from " ++ String.ofList path
  | .failure f => "Error: " ++ f.message

/-- A practice session that is ready to begin. -/
structure Prepared where
  opening : List String
  prompt : String
  conversation : Conversation

/-- What the program does after the command line was read. -/
inductive Start where
  | done (lines : List String)
  | refused
  | failed (complaint : Complaint)
  | talks (prepared : Prepared)

def versionLine : String := "maestro 0.1.0"

/-- The explanation of the command line. -/
def usage : List String :=
  [ "Voice-style commands for a metronome and sheet music page turner",
    "",
    "Usage: maestro [OPTIONS] [COMMAND]",
    "",
    "Commands:",
    "  init         Create a default configuration file",
    "  config-path  Show the configuration file path",
    "  help         Print this message or the help of the given subcommand(s)",
    "",
    "Options:",
    "  -c, --config <CONFIG>        Config file path (default: ~/.config/maestro/config.toml)",
    "      --pdf <FILE>             Sheet music PDF (default: first PDF in the music directory)",
    "      --bpm <BPM>              Initial tempo in BPM",
    "      --no-model               Use only the pattern rules, no statistical model",
    "      --threshold <THRESHOLD>  Minimum model confidence (0.0-1.0)",
    "      --wake-word <WAKE_WORD>  Only accept commands after this word",
    "      --no-viewer              Do not launch a PDF viewer",
    "  -v, --verbose                Enable debug logging",
    "  -h, --help                   Print help",
    "  -V, --version                Print version" ]

/-! ### Opening lines -/

/-- The line that tells how intents are found. -/
def recognitionText (c : Classifier) : String :=
  if c.isStatistical then "NLU: statistical intent model ready" else "NLU: using rule-based intents"

/-- The line that tells which page is open. -/
def pageText (musicDir : String) : Option Nat → String
  | some page => "Opening page " ++ toString page ++ "."
  | none => "No PDF found in " ++ musicDir ++ "; page commands are disabled."

/-- The line that tells how to give commands. -/
def commandsText (wakeWord : Option (List Char)) : String :=
  match wakeWord with
  | some word =>
    "[Text Mode] Say '" ++ String.ofList word ++ "' before each command, or type 'quit'."
  | none => "[Text Mode] Type commands (or 'quit')."

/-- A conversation about a score with the given settings, and the lines that open it. -/
def prepare (s : Settings) (score : Option Pager) : Prepared :=
  let session := Session.start (.atTempo s.tempo) score
  let conversation : Conversation :=
    { attention := .ofWakeWord (s.wakeWord.map String.toList)
      classifier := s.classifier
      practice := .start (.start session false) }
  let (conversation, events, _) := conversation.act .showPage
  { opening := [
      Console.sentence (recognitionText conversation.classifier),
      Console.sentence (pageText s.musicDir events.page),
      commandsText conversation.attention.wakeWord]
    prompt := s.prompt
    conversation }

section

variable {m : Type → Type} [Monad m]

/-- The settings that hold for some options. -/
def effectiveSettings (files : FileAccess m) (home : List Char) (o : Options) :
    m (Except Complaint Settings) := do
  match o.settingsFile with
  | some path =>
    match ← files.settingsAt path with
    | .ok s => return .ok (o.layer.applyTo s)
    | .error _ => return .error (.settingsFile path)
  | none => return .ok (o.layer.applyTo (← files.settingsOrInitial home))

/-- The score that holds for some options: the one that is named, which must exist, or the
    first one in the directory for scores. -/
def effectiveScore (files : FileAccess m) (s : Settings) (o : Options) :
    m (Except Complaint (Option Pager)) := do
  let found ← match o.score with
    | some path => pure (some path)
    | none =>
      match ← files.findScore s.musicDir.toList with
      | .ok found => pure found
      | .error _ => return .ok none
  match found with
  | none => return .ok none
  | some path =>
    match ← files.openScore path with
    | .ok pager => return .ok (some (pager.withTotal s.totalPages))
    | .error f => return .error (.failure f)

/-- Prepare a practice session. -/
def startPractice (files : FileAccess m) (home : List Char) (o : Options) : m Start := do
  match ← effectiveSettings files home o with
  | .error complaint => return .failed complaint
  | .ok s =>
    match ← effectiveScore files s o with
    | .error complaint => return .failed complaint
    | .ok score => return .talks (prepare s score)

/-- Do what the command line asks for. The settings of programs are kept at `home`. -/
def start (files : FileAccess m) (home : List Char) (words : List String) : m Start := do
  match read words with
  | none => return .refused
  | some .help => return .done usage
  | some .version => return .done [versionLine]
  | some .tellSettingsPath => return .done [String.ofList (Settings.storePath home)]
  | some .createSettings =>
    match ← files.storeExample home with
    | .ok () =>
      return .done ["Created default config at: " ++ String.ofList (Settings.storePath home)]
    | .error f => return .failed (.failure f)
  | some (.practise options) => startPractice files home options

end

/-! ### A whole run -/

/-- What a run of the program leaves behind. -/
structure Outcome where
  status : Nat
  output : String
  complaint : Option String
  deriving DecidableEq, Repr

def printedLines (lines : List String) : String := String.join (lines.map Console.line)

/-- A whole run on the given input, with the given time passing before each utterance. -/
def Start.finish (pace : Duration) (input : List UInt8) : Start → Outcome
  | .done lines => ⟨0, printedLines lines, none⟩
  | .refused => ⟨2, "", none⟩
  | .failed complaint => ⟨1, "", some complaint.line⟩
  | .talks prepared =>
    let exchanges := prepared.conversation.run (fun _ => pace) input
    ⟨0, printedLines prepared.opening
      ++ String.join (exchanges.map (·.printed prepared.prompt)), none⟩

end Rehearsal.CommandLine
