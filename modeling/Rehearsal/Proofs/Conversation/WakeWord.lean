import Rehearsal.Conversation.WakeWord
import Rehearsal.Proofs.Text.LetterCase
import Rehearsal.Proofs.Text.Words

/-! # Which wake words work

  A wake word is kept without white space at its ends and in lower case. What is heard is cut into
  words, each word is stripped of what surrounds its letters and numbers, and the wake word is
  looked for among them without regard to the case of basic Latin letters.

  `Wakes` says that a wake word works: said alone it wakes, and said before a command it gives the
  command, whatever was heard before. This is so exactly if the wake word is `Plain`, that is if
  none of the steps above takes anything from it. Otherwise no word that is heard can be the wake
  word.

  The key lemma is `plain_of_isWakeWord`: a word found in the wake word itself is no longer than
  it, and what it is compared with is no shorter, so nothing was dropped on the way.

  Main statement: `wakes_iff_plain`.
-/

namespace Rehearsal

open Text

/-! ## Letters and numbers -/

section Characters

variable {c : Char}

theorem not_isBlank_of_isAlphanumeric (h : isAlphanumeric c = true) : isBlank c = false := by
  unfold isAlphanumeric at h
  rcases Bool.or_eq_true_iff.1 h with hletter | hnumber
  · exact Ranges.not_contains_of_apart (by decide +kernel) hletter
  · exact Ranges.not_contains_of_apart (by decide +kernel) hnumber

theorem not_isPause_of_isAlphanumeric (h : isAlphanumeric c = true) :
    Attention.isPause c = false := by
  by_contra hpause
  simp only [Attention.isPause, Bool.not_eq_false, Bool.or_eq_true, beq_iff_eq] at hpause
  rcases hpause with ((rfl | rfl) | rfl) | rfl
  all_goals exact absurd h (by decide +kernel)

end Characters

namespace Attention

variable {w : List Char}

/-! ## What is heard -/

/-- The attention after some utterances, one after the other. -/
def after (g : Attention) (utterances : List (List Char)) : Attention :=
  utterances.foldl (fun g utterance => (g.hear utterance).1) g

/-- The wake word works, whatever was heard before: said alone it wakes, and before a command that
    begins with a letter or number it gives the words of the command. -/
structure Wakes (w : List Char) : Prop where
  /-- The wake word alone. -/
  alone : ∀ earlier, (((ofWakeWord (some w)).after earlier).hear w).2 = .awake
  /-- The wake word and a command. -/
  before_command : ∀ earlier c rest, isAlphanumeric c = true →
    (((ofWakeWord (some w)).after earlier).hear (w ++ ' ' :: c :: rest)).2 =
      .command (unwords (words (c :: rest)))

/-- What is left of the wake word without white space at its ends is one word that begins and ends
    with a letter or number, and basic Latin letters are all that lower case changes in it. -/
structure Plain (w : List Char) : Prop where
  /-- There is no white space within. -/
  one_word : ∀ c ∈ trim w, isBlank c = false
  /-- The first character is a letter or number. -/
  first : (trim w).head?.any isAlphanumeric = true
  /-- The last character is a letter or number. -/
  last : (trim w).getLast?.any isAlphanumeric = true
  /-- No other letter is a capital. -/
  letters : ∀ c ∈ trim w, lowerChar c = [c.toLower]

/-- Whether the wake word is plain can be computed. -/
instance : Decidable (Plain w) :=
  decidable_of_iff
    (((trim w).all fun c => !isBlank c && lowerChar c == [c.toLower]) = true ∧
      (trim w).head?.any isAlphanumeric = true ∧ (trim w).getLast?.any isAlphanumeric = true) <| by
    simp only [List.all_eq_true, Bool.and_eq_true, Bool.not_eq_true', beq_iff_eq]
    constructor
    · rintro ⟨hall, hfirst, hlast⟩
      exact ⟨fun c hc => (hall c hc).1, hfirst, hlast, fun c hc => (hall c hc).2⟩
    · intro h
      exact ⟨fun c hc => ⟨h.one_word c hc, h.letters c hc⟩, h.first, h.last⟩

/-- Hearing never changes the wake word. -/
@[simp] theorem wakeWord_hear (g : Attention) (utterance : List Char) :
    (g.hear utterance).1.wakeWord = g.wakeWord := by
  unfold hear
  split
  · rfl
  · split
    · dsimp only
      split <;> rfl
    · split <;> rfl

@[simp] theorem wakeWord_after (g : Attention) (utterances : List (List Char)) :
    (g.after utterances).wakeWord = g.wakeWord := by
  induction utterances generalizing g with
  | nil => rfl
  | cons utterance utterances ih =>
    have hrest := ih (g.hear utterance).1
    rwa [wakeWord_hear] at hrest

/-- The wake word that is kept, if it is not blank. -/
theorem wakeWord_ofWakeWord (h : trim w ≠ []) :
    (ofWakeWord (some w)).wakeWord = some (lowercase (trim w)) := by
  -- lower case leaves no text empty
  have hne : lowercase (trim w) ≠ [] := by
    intro hempty
    have hle := length_le_lowercaseFrom (trim w) false
    rw [← lowercase, hempty, List.length_nil, Nat.le_zero, List.length_eq_zero_iff] at hle
    exact h hle
  simp [ofWakeWord, hne]

/-- What is after the first wake word of an utterance. -/
theorem afterWakeWord?_eq_some_iff {wakeWord utterance : List Char} {rest : List (List Char)} :
    afterWakeWord? wakeWord utterance = some rest ↔
      ∃ front word, words utterance = front ++ word :: rest ∧ isWakeWord wakeWord word = true ∧
        ∀ v ∈ front, isWakeWord wakeWord v = false := by
  unfold afterWakeWord?
  constructor
  · intro h
    -- the words in front of the wake word, and those from it on
    have hsplit := List.takeWhile_append_dropWhile (p := fun v => !isWakeWord wakeWord v)
      (l := words utterance)
    cases hcut : (words utterance).dropWhile fun v => !isWakeWord wakeWord v with
    | nil =>
      rw [hcut] at h
      cases h
    | cons word later =>
      rw [hcut] at h hsplit
      obtain rfl : later = rest := Option.some.inj h
      have hne : (words utterance).dropWhile (fun v => !isWakeWord wakeWord v) ≠ [] := by
        rw [hcut]
        exact List.cons_ne_nil word later
      have hhead := List.head_dropWhile_not _ hne
      simp only [hcut, List.head_cons, Bool.not_eq_false'] at hhead
      refine ⟨_, word, hsplit.symm, hhead, ?_⟩
      intro v hv
      simpa using List.mem_takeWhile_imp hv
  · rintro ⟨front, word, hwords, hword, hfront⟩
    have hpassed : ∀ v ∈ front, (!isWakeWord wakeWord v) = true := by
      intro v hv
      rw [hfront v hv]
      rfl
    rw [hwords, List.dropWhile_append_of_pos hpassed, List.dropWhile_cons_of_neg (by simp [hword])]

theorem afterWakeWord?_eq_none_iff {wakeWord utterance : List Char} :
    afterWakeWord? wakeWord utterance = none ↔
      ¬ ∃ word ∈ words utterance, isWakeWord wakeWord word = true := by
  unfold afterWakeWord?
  cases hcut : (words utterance).dropWhile fun v => !isWakeWord wakeWord v with
  | nil =>
    rw [List.dropWhile_eq_nil_iff] at hcut
    simpa using hcut
  | cons word later =>
    have hne : ¬ ∀ v ∈ words utterance, (!isWakeWord wakeWord v) = true := by
      rw [← List.dropWhile_eq_nil_iff, hcut]
      exact List.cons_ne_nil word later
    simpa using hne

theorem afterWakeWord?_of_words {wakeWord word utterance : List Char} {rest : List (List Char)}
    (hwords : words utterance = word :: rest) (hword : isWakeWord wakeWord word = true) :
    afterWakeWord? wakeWord utterance = some rest :=
  afterWakeWord?_eq_some_iff.2 ⟨[], word, hwords, hword, List.forall_mem_nil _⟩

/-- An utterance wakes only if the wake word is one of its words. -/
theorem exists_isWakeWord_of_awake {g : Attention} {utterance : List Char}
    (h : (g.hear utterance).2 = .awake) :
    ∃ wakeWord, g.wakeWord = some wakeWord ∧
      ∃ word ∈ words utterance, isWakeWord wakeWord word = true := by
  unfold hear at h
  split at h
  · cases h
  · rename_i wakeWord hset
    refine ⟨wakeWord, hset, ?_⟩
    by_contra hnot
    rw [afterWakeWord?_eq_none_iff.2 hnot] at h
    dsimp only at h
    split at h <;> cases h

/-! ## The command -/

/-- A command that begins with a letter or number is made of all the words that follow. -/
theorem commandOf_words {c : Char} (h : isAlphanumeric c = true) (rest : List Char) :
    commandOf (words (c :: rest)) = unwords (words (c :: rest)) ∧
      unwords (words (c :: rest)) ≠ [] := by
  have hblank : isBlank c = false := not_isBlank_of_isAlphanumeric h
  have hpause : isPause c = false := not_isPause_of_isAlphanumeric h
  obtain ⟨word, ws, hwords⟩ := words_cons_of_not_blank hblank rest
  obtain ⟨more, hmore⟩ := unwords_cons (c :: word) ws
  have htext : unwords (words (c :: rest)) = c :: (word ++ more) := by
    rw [hwords, hmore, List.cons_append]
  constructor
  -- no pause stands in front that could be dropped
  · have hdrop : (unwords (words (c :: rest))).dropWhile isPause = unwords (words (c :: rest)) := by
      rw [htext, List.dropWhile_cons_of_neg (by simp [hpause])]
    rw [commandOf, hdrop, trim_unwords_words hblank]
  · simp [htext]

/-! ## Plain wake words -/

/-- Nothing is stripped from a text that begins and ends with a letter or number. -/
theorem trimWhile_eq_self_of_edges {cs : List Char} (hfirst : cs.head?.any isAlphanumeric = true)
    (hlast : cs.getLast?.any isAlphanumeric = true) :
    trimWhile (fun c => !isAlphanumeric c) cs = cs := by
  rw [trimWhile_eq_self_iff]
  constructor
  · intro c hc
    rw [Option.mem_def.1 hc] at hfirst
    simpa using hfirst
  · intro c hc
    rw [Option.mem_def.1 hc] at hlast
    simpa using hlast

/-- If a word of the wake word is taken for the wake word, nothing was dropped from it on the
    way. -/
theorem plain_of_isWakeWord {word : List Char} (hword : word ∈ words w)
    (h : isWakeWord (lowercase (trim w)) word = true) : Plain w := by
  rw [← words_trim] at hword
  obtain ⟨hsub, hne, hblank⟩ := mem_words hword
  unfold isWakeWord at h
  -- stripped word ≤ word ≤ wake word ≤ wake word in lower case, and the two ends are as long
  have hstrip : (trimWhile (fun c => !isAlphanumeric c) word).Sublist word :=
    trimWhile_sublist _ word
  have hlower : (trim w).length ≤ (lowercase (trim w)).length := length_le_lowercaseFrom _ false
  have hlength : (trimWhile (fun c => !isAlphanumeric c) word).length =
      (lowercase (trim w)).length := length_eq_of_sameLetters h
  have hself : trimWhile (fun c => !isAlphanumeric c) word = word :=
    hstrip.eq_of_length_le (by have := hsub.length_le; omega)
  have hwhole : word = trim w := hsub.eq_of_length_le (by rw [hself] at hlength; omega)
  rw [hself, hwhole, sameLetters_lowercase_iff] at h
  rw [hwhole] at hself hblank hne
  obtain ⟨hfirst, hlast⟩ := trimWhile_eq_self_iff.1 hself
  refine { one_word := hblank, first := ?_, last := ?_, letters := h }
  · have hhead : (trim w).head? = some ((trim w).head hne) := List.head?_eq_some_head hne
    have hc := hfirst _ hhead
    rw [hhead]
    simpa using hc
  · have hend : (trim w).getLast? = some ((trim w).getLast hne) := List.getLast?_eq_some_getLast hne
    have hc := hlast _ hend
    rw [hend]
    simpa using hc

namespace Plain

theorem trim_ne_nil (h : Plain w) : trim w ≠ [] := by
  intro hempty
  have hfirst := h.first
  simp [hempty] at hfirst

theorem words_eq (h : Plain w) : words w = [trim w] := by
  rw [← words_trim, words_eq_singleton h.trim_ne_nil h.one_word]

theorem isWakeWord (h : Plain w) : isWakeWord (lowercase (trim w)) (trim w) = true := by
  unfold Attention.isWakeWord
  rw [trimWhile_eq_self_of_edges h.first h.last, sameLetters_lowercase_iff]
  exact h.letters

/-- A plain wake word wakes, and gives the command that follows it. -/
theorem wakes (h : Plain w) : Wakes w := by
  -- the gate keeps its wake word, whatever it heard before
  have hset : ∀ earlier, ((ofWakeWord (some w)).after earlier).wakeWord =
      some (lowercase (trim w)) := by
    intro earlier
    rw [wakeWord_after, wakeWord_ofWakeWord h.trim_ne_nil]
  refine { alone := ?_, before_command := ?_ }
  · intro earlier
    have hfound : afterWakeWord? (lowercase (trim w)) w = some [] :=
      afterWakeWord?_of_words h.words_eq h.isWakeWord
    have hcommand : (commandOf []).isEmpty = true := rfl
    rw [hear, hset]
    simp only [hfound, hcommand, if_true]
  · intro earlier c rest hc
    have hwords : words (w ++ ' ' :: c :: rest) = trim w :: words (c :: rest) := by
      rw [words_append_blank (by decide), h.words_eq, List.singleton_append]
    have hfound : afterWakeWord? (lowercase (trim w)) (w ++ ' ' :: c :: rest) =
        some (words (c :: rest)) := afterWakeWord?_of_words hwords h.isWakeWord
    obtain ⟨hcommand, hne⟩ := commandOf_words hc rest
    rw [hear, hset]
    simp [hfound, hcommand, hne]

end Plain

/-- **Which wake words work**: a wake word wakes when it is said, and gives the command that
    follows it, exactly if it is plain. -/
theorem wakes_iff_plain (w : List Char) : Wakes w ↔ Plain w := by
  constructor
  · intro h
    -- nothing needs to have been heard before
    obtain ⟨wakeWord, hset, word, hmem, hword⟩ := exists_isWakeWord_of_awake (h.alone [])
    have hkept : wakeWord = lowercase (trim w) := by
      have hfilter := hset
      simp only [after, List.foldl_nil, ofWakeWord, Option.map_some, Option.filter_eq_some_iff,
        Option.some.injEq] at hfilter
      exact hfilter.1.symm
    rw [hkept] at hword
    exact plain_of_isWakeWord hmem hword
  · intro h
    exact h.wakes

example : Plain " élan-2 ".toList := by decide +kernel

/-- A capital letter beyond basic Latin, a second word and a mark at the end: none of these wake
    words is heard, though each has letters and is said as it was set. -/
theorem ignored_of_not_plain :
    "Élan".toList.any isAlphanumeric = true ∧
      ((ofWakeWord (some "Élan".toList)).hear "Élan next page".toList).2 = .ignored ∧
      ((ofWakeWord (some "Élan".toList)).hear "Élan".toList).2 = .ignored ∧
      ((ofWakeWord (some "hey maestro".toList)).hear "hey maestro next page".toList).2 = .ignored ∧
      ((ofWakeWord (some "maestro!".toList)).hear "maestro! next page".toList).2 = .ignored := by
  decide +kernel

end Attention

end Rehearsal
