import Rehearsal.Text.Pieces
import Rehearsal.Text.Utf8

/-! # Reading utterances

  Input is read line by line. A line is decoded leniently and trimmed, and a blank one is
  passed over. The prompt is shown before every line that is read, and once more when the end
  of input is found.
-/

namespace Rehearsal

open Text

namespace Utterances

/-- The byte that ends a line. -/
def lineFeed : UInt8 := 10

/-- The first line of some bytes with the byte that ends it, and what follows it. -/
def cutLine : List UInt8 → List UInt8 × List UInt8
  | [] => ([], [])
  | b :: rest =>
    if b = lineFeed then ([b], rest)
    else
      let (line, rest) := cutLine rest
      (b :: line, rest)

theorem cutLine_append (bytes : List UInt8) : (cutLine bytes).1 ++ (cutLine bytes).2 = bytes := by
  induction bytes with
  | nil => rfl
  | cons b rest ih =>
    unfold cutLine
    split
    · rfl
    · simpa using ih

theorem cutLine_fst_ne_nil (b : UInt8) (rest : List UInt8) : (cutLine (b :: rest)).1 ≠ [] := by
  unfold cutLine
  split <;> simp

theorem length_cutLine_lt (b : UInt8) (rest : List UInt8) :
    (cutLine (b :: rest)).2.length < (b :: rest).length := by
  have whole := congrArg List.length (cutLine_append (b :: rest))
  have first := List.length_pos_iff.2 (cutLine_fst_ne_nil b rest)
  simp only [List.length_append] at whole
  omega

/-- The utterance on a line, unless the line is blank. -/
def utterance? (line : List UInt8) : Option (List Char) :=
  let text := trim (decodeUtf8 line)
  if text.isEmpty then none else some text

/-- What reading an utterance gives. -/
structure Reading where
  prompts : Nat
  /-- The utterance, or nothing at the end of input. -/
  utterance : Option (List Char)
  rest : List UInt8
  deriving DecidableEq, Repr

/-- The next utterance of some input, with so many prompts already shown. -/
def read (prompts : Nat) (bytes : List UInt8) : Reading :=
  match bytes with
  | [] => ⟨prompts + 1, none, []⟩
  | b :: tail =>
    let cut := cutLine (b :: tail)
    match utterance? cut.1 with
    | some text => ⟨prompts + 1, some text, cut.2⟩
    | none => read (prompts + 1) cut.2
termination_by bytes.length
decreasing_by exact length_cutLine_lt b tail

def prompted (prompt : String) (times : Nat) : String := String.join (List.replicate times prompt)

/-- Reading an utterance shortens the input. -/
theorem length_read_lt (prompts : Nat) (bytes : List UInt8)
    (h : (read prompts bytes).utterance.isSome) :
    (read prompts bytes).rest.length < bytes.length := by
  induction hn : bytes.length using Nat.strongRecOn generalizing prompts bytes with
  | ind n ih =>
    subst hn
    cases bytes with
    | nil => simp [read] at h
    | cons b tail =>
      rw [read] at h ⊢
      have shorter := length_cutLine_lt b tail
      cases hu : utterance? (cutLine (b :: tail)).1 with
      | some text => simpa [hu] using shorter
      | none =>
        simp only [hu] at h ⊢
        exact Nat.lt_trans (ih _ shorter _ _ h rfl) shorter

/-- All utterances of an input, and how many prompts are shown until its end. -/
def readAll (prompts : Nat) (bytes : List UInt8) : Nat × List (List Char) :=
  let reading := read prompts bytes
  if h : reading.utterance.isSome then
    let (shown, later) := readAll reading.prompts reading.rest
    (shown, reading.utterance.get h :: later)
  else (reading.prompts, [])
termination_by bytes.length
decreasing_by exact length_read_lt prompts bytes h

end Utterances

end Rehearsal
