import Rehearsal.Conversation.Utterances
import Rehearsal.Proofs.Past
import Rehearsal.Proofs.Text.Decoding
import Rehearsal.Proofs.Text.Words

/-! # Utterances are lines

  Input is read up to a line feed, decoded and trimmed, and if nothing is left, read on. What comes
  of this in the end is said here without any reading: the utterances are the lines of the decoded
  input, trimmed, but for the blank ones, and one prompt is shown for each line and one for the end
  of input.

  Reading follows the bytes, so the induction is on the lines of the bytes (`readAll_eq`). That
  these are also the lines of the decoded text is `splitOn_decodeUtf8`.

  Main statement: `utterances_are_lines`.
-/

namespace Rehearsal

open Text

namespace Utterances

variable {line rest bytes : List UInt8}

/-- How many lines some input has. The last one may lack its line feed. -/
def lineCount (bytes : List UInt8) : Nat :=
  bytes.count lineFeed + if bytes.getLast?.any (· != lineFeed) then 1 else 0

/-! ## The first line -/

theorem cutLine_of_not_mem (h : lineFeed ∉ line) : cutLine line = (line, []) := by
  induction line with
  | nil => rfl
  | cons b line ih =>
    rw [List.mem_cons, not_or] at h
    unfold cutLine
    rw [if_neg (Ne.symm h.1), ih h.2]

theorem cutLine_append_lineFeed (h : lineFeed ∉ line) (rest : List UInt8) :
    cutLine (line ++ lineFeed :: rest) = (line ++ [lineFeed], rest) := by
  induction line with
  | nil => simp [cutLine]
  | cons b line ih =>
    rw [List.mem_cons, not_or] at h
    rw [List.cons_append, List.cons_append, cutLine, if_neg (Ne.symm h.1), ih h.2]

theorem utterance?_append_lineFeed (line : List UInt8) :
    utterance? (line ++ [lineFeed]) = utterance? line := by
  have htext : decodeUtf8 (line ++ [lineFeed]) = decodeUtf8 line ++ ['\n'] :=
    decodeUtf8_append_lineFeed line []
  unfold utterance?
  rw [htext, trim_append_blank (by decide)]

/-! ## How many lines -/

theorem lineCount_of_not_mem (hne : line ≠ []) (h : lineFeed ∉ line) : lineCount line = 1 := by
  have hlast : line.getLast?.any (· != lineFeed) = true := by
    rw [List.getLast?_eq_some_getLast hne, Option.any_some, bne_iff_ne]
    intro heq
    exact h (heq ▸ List.getLast_mem hne)
  unfold lineCount
  rw [List.count_eq_zero_of_not_mem h, if_pos hlast]

theorem lineCount_append_lineFeed (h : lineFeed ∉ line) (rest : List UInt8) :
    lineCount (line ++ lineFeed :: rest) = lineCount rest + 1 := by
  have hlast : (line ++ lineFeed :: rest).getLast?.any (· != lineFeed) =
      rest.getLast?.any (· != lineFeed) := by
    rw [List.getLast?_append_of_ne_nil _ (List.cons_ne_nil _ _), List.getLast?_cons]
    cases rest.getLast? with
    | none => rfl
    | some b => rfl
  unfold lineCount
  rw [List.count_append, List.count_eq_zero_of_not_mem h, List.count_cons_self, hlast]
  omega

/-! ## Reading line by line -/

theorem readAll_nil (prompts : Nat) : readAll prompts [] = (prompts + 1, []) := by
  simp [readAll, read]

/-- Reading a line shows one prompt and gives its utterance, if it has one. -/
theorem readAll_of_ne_nil (hne : bytes ≠ []) (prompts : Nat) : readAll prompts bytes =
    ((readAll (prompts + 1) (cutLine bytes).2).1,
      (utterance? (cutLine bytes).1).toList ++ (readAll (prompts + 1) (cutLine bytes).2).2) := by
  obtain ⟨b, tail, rfl⟩ := List.exists_cons_of_ne_nil hne
  cases hline : utterance? (cutLine (b :: tail)).1 with
  | some text =>
    rw [readAll, read]
    simp [hline]
  | none =>
    -- a blank line is passed over within one and the same read
    have hread : read prompts (b :: tail) = read (prompts + 1) (cutLine (b :: tail)).2 := by
      rw [read]
      simp [hline]
    have hsame : readAll prompts (b :: tail) = readAll (prompts + 1) (cutLine (b :: tail)).2 := by
      conv => rhs; unfold readAll
      rw [readAll, hread]
    rw [hsame, Option.toList_none, List.nil_append]

/-- All that is read, line by line. -/
theorem readAll_eq (prompts : Nat) (bytes : List UInt8) : readAll prompts bytes =
    (prompts + lineCount bytes + 1, (bytes.splitOn lineFeed).filterMap utterance?) := by
  induction bytes using cutInduction lineFeed generalizing prompts with
  -- the last line has no line feed; if it is empty it is no line at all
  | last line hline =>
    rw [List.splitOn_eq_singleton hline, filterMap_cons_toList, List.filterMap_nil,
      List.append_nil]
    by_cases hne : line = []
    · subst hne
      rw [readAll_nil]
      rfl
    · rw [readAll_of_ne_nil hne, cutLine_of_not_mem hline, readAll_nil,
        lineCount_of_not_mem hne hline, List.append_nil]
  | cut line rest hline ih =>
    have hne : line ++ lineFeed :: rest ≠ [] := by simp
    rw [readAll_of_ne_nil hne, cutLine_append_lineFeed hline, ih, utterance?_append_lineFeed,
      lineCount_append_lineFeed hline, splitOn_append_cons, List.splitOn_eq_singleton hline,
      List.singleton_append, filterMap_cons_toList]
    congr 1
    omega

theorem filterMap_utterance? (lines : List (List UInt8)) :
    lines.filterMap utterance? = ((lines.map decodeUtf8).map trim).filter (!·.isEmpty) := by
  induction lines with
  | nil => rfl
  | cons line lines ih =>
    rw [List.map_cons, List.map_cons, List.filterMap_cons, List.filter_cons, ih, utterance?]
    cases (trim (decodeUtf8 line)).isEmpty with
    | true => rfl
    | false => rfl

/-- **Utterances are lines**: what is read of some input, up to its end, are the lines of the
    decoded input, trimmed, but for the blank ones. No utterance is blank or has white space at an
    end. The prompt is shown once for each line and once more at the end of input. -/
theorem utterances_are_lines (bytes : List UInt8) :
    (readAll 0 bytes).2 =
        (((decodeUtf8 bytes).splitOn '\n').map trim).filter (!·.isEmpty) ∧
      (∀ u ∈ (readAll 0 bytes).2, u ≠ [] ∧ (∀ c ∈ u.head?, isBlank c = false) ∧
        ∀ c ∈ u.getLast?, isBlank c = false) ∧
      ∀ prompt, prompted prompt (readAll 0 bytes).1 =
        String.join (List.replicate (lineCount bytes + 1) prompt) := by
  -- lines of bytes first: a line feed is a byte of its own in every text
  have hlines : (readAll 0 bytes).2 =
      (((decodeUtf8 bytes).splitOn '\n').map trim).filter (!·.isEmpty) := by
    rw [readAll_eq, splitOn_decodeUtf8]
    exact filterMap_utterance? (bytes.splitOn lineFeed)
  refine ⟨hlines, ?_, ?_⟩
  · intro u hu
    rw [hlines] at hu
    obtain ⟨hmem, hne⟩ := List.mem_filter.1 hu
    obtain ⟨text, -, rfl⟩ := List.mem_map.1 hmem
    exact ⟨by simpa using hne, edges_trimWhile isBlank text⟩
  · intro prompt
    rw [readAll_eq, Nat.zero_add]
    rfl

end Utterances

end Rehearsal
