import Rehearsal.Text.Lowercase
import Rehearsal.Text.Pieces

/-! # The wake word

  With a wake word set, an utterance counts only if the wake word is in it or was the whole of
  the utterance before. The words after the wake word are the command; when there are none, the
  next utterance is the command.
-/

namespace Rehearsal

open Text

/-- What becomes of an utterance. -/
inductive Heard where
  | command (text : List Char)
  /-- The wake word came alone; the next utterance is a command. -/
  | awake
  | ignored
  deriving DecidableEq, Repr

/-- What decides which utterances count. -/
structure Attention where
  wakeWord : Option (List Char)
  /-- Whether the utterance before was the wake word alone. -/
  awake : Bool
  deriving DecidableEq, Repr

namespace Attention

/-- The attention for a wake word, which is trimmed and put in lower case; a blank one counts as
    none. -/
def ofWakeWord (wakeWord : Option (List Char)) : Attention :=
  { wakeWord := (wakeWord.map fun w => lowercase (trim w)).filter fun w => !w.isEmpty
    awake := false }

/-- Whether a spoken word is the wake word: what surrounds its letters and numbers does not
    count, nor does the case of basic Latin letters. -/
def isWakeWord (wakeWord word : List Char) : Bool :=
  sameLetters (trimWhile (fun c => !isAlphanumeric c) word) wakeWord

/-- A mark that may stand between the wake word and the command. -/
def isPause (c : Char) : Bool := c == ',' || c == '.' || c == '!' || c == ':'

/-- The command in the words that follow the wake word. -/
def commandOf (rest : List (List Char)) : List Char := trim ((unwords rest).dropWhile isPause)

/-- The words after the first wake word of an utterance. -/
def afterWakeWord? (wakeWord : List Char) (utterance : List Char) : Option (List (List Char)) :=
  match (words utterance).dropWhile fun w => !isWakeWord wakeWord w with
  | [] => none
  | _ :: rest => some rest

/-- What becomes of an utterance, and the attention after it. -/
def hear (g : Attention) (utterance : List Char) : Attention × Heard :=
  match g.wakeWord with
  | none => (g, .command utterance)
  | some wakeWord =>
    match afterWakeWord? wakeWord utterance with
    | some rest =>
      let command := commandOf rest
      if command.isEmpty then ({ g with awake := true }, .awake)
      else ({ g with awake := false }, .command command)
    | none =>
      if g.awake then ({ g with awake := false }, .command utterance) else (g, .ignored)

end Attention

end Rehearsal
