import Rehearsal.Files.Access
import Rehearsal.Files.Path
import Rehearsal.Settings.Reading
import Rehearsal.Settings.Writing

/-! # Stored settings

  Settings are kept in a file below the directory where programs keep their settings. Where
  there is no such file, or none that can be understood, the initial settings hold.
-/

namespace Rehearsal

/-- Where the settings are kept, below the directory for the settings of programs. -/
def Settings.storePath (home : List Char) : List Char :=
  Path.join (Path.join home "maestro".toList) "config.toml".toList

namespace FileAccess

variable {m : Type → Type} [Monad m]

def settingsAt (files : FileAccess m) (path : List Char) : m (Except Failure Settings) := do
  match ← files.read path with
  | .error failure => return .error failure
  | .ok content =>
    match Settings.ofText? content.toList with
    | some s => return .ok s
    | none => return .error .malformedSettings

def settings (files : FileAccess m) (home : List Char) : m (Except Failure Settings) := do
  let path := Settings.storePath home
  if ← files.isThere path then files.settingsAt path
  else return .error (.settings ("Config file not found at \"" ++ String.ofList path ++ "\""))

/-- The stored settings, or the initial ones. -/
def settingsOrInitial (files : FileAccess m) (home : List Char) : m Settings := do
  match ← files.settings home with
  | .ok s => return s
  | .error _ => return .initial

def storeSettings (files : FileAccess m) (home : List Char) (s : Settings) :
    m (Except Failure Unit) :=
  files.write (Settings.storePath home) (String.ofList s.text)

/-- Store the settings file to begin with. -/
def storeExample (files : FileAccess m) (home : List Char) : m (Except Failure Unit) :=
  files.write (Settings.storePath home) Settings.exampleText

end FileAccess

end Rehearsal
