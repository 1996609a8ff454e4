import Rehearsal.CommandLine.Numeral
import Rehearsal.Settings.Basic

/-! # Words of the command line

  The words are read from left to right. A word that is no option names what to do instead of
  practising, and nothing may follow it. An option that takes a value finds it after an equals
  sign, directly behind its letter, or in the next word, which must then not look like an
  option. No option may be given twice.
-/

namespace Rehearsal.CommandLine

/-- The options of the command line. -/
structure Options where
  settingsFile : Option (List Char) := none
  score : Option (List Char) := none
  bpm : Option Nat := none
  noModel : Bool := false
  /-- The least probability at which a prediction counts. -/
  threshold : Option Number.Binary64 := none
  wakeWord : Option String := none
  noViewer : Bool := false
  verbose : Bool := false
  deriving DecidableEq, Repr

/-- What the command line asks for. -/
inductive Request where
  | practise (options : Options)
  | createSettings
  | tellSettingsPath
  | help
  | version
  deriving DecidableEq, Repr

/-- An option that takes a value. -/
inductive Valued where
  | settingsFile
  | score
  | bpm
  | threshold
  | wakeWord
  deriving DecidableEq, Repr

/-- An option without a value. -/
inductive Flag where
  | noModel
  | noViewer
  | verbose
  | help
  | version
  deriving DecidableEq, Repr

def ofLongName? (name : String) : Option (Valued ⊕ Flag) :=
  match name with
  | "config" => some (.inl .settingsFile)
  | "pdf" => some (.inl .score)
  | "bpm" => some (.inl .bpm)
  | "threshold" => some (.inl .threshold)
  | "wake-word" => some (.inl .wakeWord)
  | "no-model" => some (.inr .noModel)
  | "no-viewer" => some (.inr .noViewer)
  | "verbose" => some (.inr .verbose)
  | "help" => some (.inr .help)
  | "version" => some (.inr .version)
  | _ => none

def ofLetter? : Char → Option (Valued ⊕ Flag)
  | 'c' => some (.inl .settingsFile)
  | 'v' => some (.inr .verbose)
  | 'h' => some (.inr .help)
  | 'V' => some (.inr .version)
  | _ => none

/-- Where the reading stands after an option. -/
inductive Reading where
  /-- More words may follow; perhaps an option still waits for its value. -/
  | options (options : Options) (waiting : Option Valued)
  | settled (request : Request)
  deriving DecidableEq, Repr

namespace Options

def fill {α : Type} (old new : Option α) : Option (Option α) :=
  if old.isSome || new.isNone then none else some new

/-- A path; the empty text is none. -/
def path? (value : List Char) : Option (List Char) := if value.isEmpty then none else some value

/-- Give an option its value. It must be a fitting value, and the first one. -/
def assign (o : Options) (option : Valued) (value : List Char) : Option Options :=
  match option with
  | .settingsFile => (fill o.settingsFile (path? value)).map ({ o with settingsFile := · })
  | .score => (fill o.score (path? value)).map ({ o with score := · })
  | .bpm => (fill o.bpm (count? maxCount value)).map ({ o with bpm := · })
  | .threshold => (fill o.threshold (number? value)).map ({ o with threshold := · })
  | .wakeWord => (fill o.wakeWord (some (String.ofList value))).map ({ o with wakeWord := · })

/-- Set a flag that is not yet set. -/
def raise (o : Options) : Flag → Option Reading
  | .noModel => if o.noModel then none else some (.options { o with noModel := true } none)
  | .noViewer => if o.noViewer then none else some (.options { o with noViewer := true } none)
  | .verbose => if o.verbose then none else some (.options { o with verbose := true } none)
  | .help => some (.settled .help)
  | .version => some (.settled .version)

/-- The settings that the options give. The threshold is brought between zero and one. -/
def layer (o : Options) : Settings.Layer :=
  { bpm := o.bpm
    usesModel := if o.noModel then some false else none
    threshold := o.threshold.map (·.clampUnit)
    wakeWord := o.wakeWord
    viewerEnabled := if o.noViewer then some false else none }

end Options

/-- Read an option with a long name, given without its two dashes. -/
def readLong (o : Options) (word : List Char) : Option Reading := do
  let name := word.takeWhile (· != '=')
  match ← ofLongName? (String.ofList name), word.drop name.length with
  | .inl option, [] => pure (.options o (some option))
  | .inl option, _ :: value => pure (.options (← o.assign option value) none)
  | .inr flag, [] => o.raise flag
  | .inr _, _ :: _ => none

/-- Read options given by their letters, without the dash. -/
def readLetters (o : Options) : List Char → Option Reading
  | [] => some (.options o none)
  | letter :: rest => do
    match ← ofLetter? letter, rest with
    | .inl option, [] => pure (.options o (some option))
    | .inl option, '=' :: value => pure (.options (← o.assign option value) none)
    | .inl option, value => pure (.options (← o.assign option value) none)
    | .inr flag, rest =>
      match ← o.raise flag with
      | .options o _ => readLetters o rest
      | .settled request => pure (.settled request)

/-- The request that a word names, and the words that follow it. -/
def readCommand (word : String) (rest : List String) : Option Request :=
  match word, rest with
  | "init", [] | "init", ["--"] => some .createSettings
  | "config-path", [] | "config-path", ["--"] => some .tellSettingsPath
  | "init", [h] | "config-path", [h] => if h = "-h" ∨ h = "--help" then some .help else none
  | "help", [] | "help", ["init"] | "help", ["config-path"] | "help", ["help"] => some .help
  | _, _ => none

/-- Read one word, with an option perhaps waiting for its value. A word that is no option and
    no value settles the request together with the words that follow it. -/
def readWord (o : Options) (waiting : Option Valued) (word : String) (rest : List String) :
    Option Reading :=
  match waiting, word.toList with
  | some _, '-' :: _ :: _ => none
  | some option, value => (o.assign option value).map (.options · none)
  | none, ['-', '-'] => if rest.isEmpty then some (.settled (.practise o)) else none
  | none, '-' :: '-' :: name => readLong o name
  | none, '-' :: letter :: letters => readLetters o (letter :: letters)
  | none, _ => (readCommand word rest).map .settled

/-- Read the rest of the words. An option that still waits at the end has no value. -/
def readFrom (o : Options) (waiting : Option Valued) : List String → Option Request
  | [] => if waiting.isSome then none else some (.practise o)
  | word :: rest =>
    match readWord o waiting word rest with
    | some (.options o waiting) => readFrom o waiting rest
    | some (.settled request) => some request
    | none => none

/-- What the words of a command line ask for, or nothing if they are not understood. -/
def read (words : List String) : Option Request := readFrom {} none words

end Rehearsal.CommandLine
