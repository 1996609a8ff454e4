import Rehearsal.Proofs.Conversation.WakeWord

/-! # Attention looks back on one utterance

  With a wake word set, an utterance has one of three fates. If the wake word is among its words,
  the first one counts, and the answer is what the words after it call for. If it is not, the
  utterance is a command exactly if the wake word alone was heard just before, and is ignored
  otherwise. Nothing that was heard earlier makes a difference.

  The invariant that carries this is `awake_hear`: one listens after an utterance exactly if it was
  answered by waking up. Which of the two it is depends on the utterance alone
  (`hear_of_called`, `hear_of_not_called`).

  Main statement: `looks_back_on_one`.
-/

namespace Rehearsal

open Text

namespace Attention

variable {g : Attention} {w u : List Char} {earlier rest : List (List Char)}

/-- What is answered to an utterance after some others. -/
def answer (g : Attention) (earlier : List (List Char)) (u : List Char) : Heard :=
  ((g.after earlier).hear u).2

/-- The wake word is among the words of the utterance. -/
def Called (w u : List Char) : Prop := ∃ word ∈ words u, isWakeWord w word = true

/-- These are the words after the first wake word of the utterance. -/
def CalledBefore (w u : List Char) (rest : List (List Char)) : Prop :=
  ∃ front word, words u = front ++ word :: rest ∧ isWakeWord w word = true ∧
    ∀ v ∈ front, isWakeWord w v = false

/-- What the words after the wake word call for. -/
def reply (rest : List (List Char)) : Heard :=
  if commandOf rest = [] then .awake else .command (commandOf rest)

/-- The last of the utterances so far was answered by waking up. -/
def JustAwoken (g : Attention) (earlier : List (List Char)) : Prop :=
  ∃ front v, earlier = front ++ [v] ∧ g.answer front v = .awake

/-- No more than one utterance before counts, and of this one only whether it was the wake word
    alone. -/
structure LooksBackOnOne (g : Attention) (w : List Char) : Prop where
  /-- The answer depends on the utterance and the one directly before it. -/
  by_last : ∀ earlier earlier' u, earlier.getLast? = earlier'.getLast? →
    g.answer earlier u = g.answer earlier' u
  /-- Where the wake word is, the words after the first one are answered, whatever was heard
      before. -/
  called : ∀ u, Called w u → ∃ rest, CalledBefore w u rest ∧
    ∀ awake, ((⟨some w, awake⟩ : Attention).hear u).2 = reply rest
  /-- Where it is not, the utterance is a command exactly if the one before was answered by waking
      up. -/
  passed : ∀ earlier u, ¬ Called w u → (g.answer earlier u = .command u ↔ g.JustAwoken earlier)
  /-- Otherwise it is ignored. -/
  ignored : ∀ earlier u, ¬ Called w u → (g.answer earlier u = .ignored ↔ ¬ g.JustAwoken earlier)

/-! ## One utterance -/

theorem not_called_iff : ¬ Called w u ↔ afterWakeWord? w u = none :=
  afterWakeWord?_eq_none_iff.symm

theorem calledBefore_iff : CalledBefore w u rest ↔ afterWakeWord? w u = some rest :=
  afterWakeWord?_eq_some_iff.symm

/-- After the wake word one listens if no command followed it. -/
theorem hear_of_called (h : afterWakeWord? w u = some rest) (awake : Bool) :
    (⟨some w, awake⟩ : Attention).hear u =
      (⟨some w, decide (reply rest = .awake)⟩, reply rest) := by
  unfold hear reply
  simp only [h]
  by_cases hcommand : commandOf rest = []
  · simp [hcommand]
  · simp [hcommand]

/-- Without the wake word one does not listen any more. -/
theorem hear_of_not_called (h : afterWakeWord? w u = none) (awake : Bool) :
    (⟨some w, awake⟩ : Attention).hear u =
      (⟨some w, false⟩, if awake then .command u else .ignored) := by
  unfold hear
  simp only [h]
  cases awake with
  | true => rfl
  | false => rfl

/-- One listens after an utterance exactly if it was answered by waking up. -/
theorem awake_hear (hset : g.wakeWord = some w) (u : List Char) :
    (g.hear u).1.awake = true ↔ (g.hear u).2 = .awake := by
  obtain ⟨_, awake⟩ := g
  obtain rfl : _ = some w := hset
  -- the gate wakes exactly when the wake word comes with nothing behind it
  cases hfound : afterWakeWord? w u with
  | some rest =>
    rw [hear_of_called hfound]
    exact decide_eq_true_iff
  | none =>
    rw [hear_of_not_called hfound]
    cases awake with
    | true => simp
    | false => simp

/-- What was heard before makes no difference to what one knows after an utterance. -/
theorem hear_fst_congr {g' : Attention} (hset : g.wakeWord = some w) (hset' : g'.wakeWord = some w)
    (u : List Char) : (g.hear u).1 = (g'.hear u).1 := by
  obtain ⟨_, awake⟩ := g
  obtain ⟨_, awake'⟩ := g'
  obtain rfl : _ = some w := hset
  obtain rfl : _ = some w := hset'
  cases hfound : afterWakeWord? w u with
  | some rest => rw [hear_of_called hfound, hear_of_called hfound]
  | none => rw [hear_of_not_called hfound, hear_of_not_called hfound]

/-! ## Utterances one after the other -/

theorem after_snoc (g : Attention) (front : List (List Char)) (v : List Char) :
    g.after (front ++ [v]) = ((g.after front).hear v).1 := by
  rw [after, List.foldl_append]
  rfl

/-- One that was not awake at first is awake later exactly if it has just awoken. -/
theorem awake_after_iff (hset : g.wakeWord = some w) (hasleep : g.awake = false)
    (earlier : List (List Char)) : (g.after earlier).awake = true ↔ g.JustAwoken earlier := by
  unfold JustAwoken
  -- only the last utterance counts, if there is one
  rcases List.eq_nil_or_concat earlier with rfl | ⟨front, v, rfl⟩
  · simp [after, hasleep]
  · have hset' : (g.after front).wakeWord = some w := by rw [wakeWord_after, hset]
    rw [List.concat_eq_append, after_snoc, awake_hear hset']
    constructor
    · intro h
      exact ⟨front, v, rfl, h⟩
    · rintro ⟨front', v', hsplit, h⟩
      obtain ⟨rfl, hv⟩ := List.append_inj' hsplit rfl
      obtain rfl : v = v' := List.singleton_inj.1 hv
      exact h

/-- Stories with the same last utterance leave the same behind. -/
theorem after_congr {earlier' : List (List Char)} (hset : g.wakeWord = some w)
    (hlast : earlier.getLast? = earlier'.getLast?) : g.after earlier = g.after earlier' := by
  have hset' : ∀ front, (g.after front).wakeWord = some w := by
    intro front
    rw [wakeWord_after, hset]
  -- both histories are empty, or both end with the same utterance
  rcases List.eq_nil_or_concat earlier with rfl | ⟨front, v, rfl⟩
  · rw [List.getLast?_nil, eq_comm, List.getLast?_eq_none_iff] at hlast
    rw [hlast]
  · rcases List.eq_nil_or_concat earlier' with rfl | ⟨front', v', rfl⟩
    · simp at hlast
    · simp only [List.concat_eq_append, List.getLast?_concat, Option.some.injEq] at hlast
      rw [List.concat_eq_append, List.concat_eq_append, after_snoc, after_snoc, hlast]
      exact hear_fst_congr (hset' front) (hset' front') v'

theorem answer_of_not_called (hset : g.wakeWord = some w) (h : afterWakeWord? w u = none)
    (earlier : List (List Char)) :
    g.answer earlier u = if (g.after earlier).awake then .command u else .ignored := by
  have hset' : (g.after earlier).wakeWord = some w := by rw [wakeWord_after, hset]
  unfold answer
  generalize g.after earlier = now at hset' ⊢
  obtain ⟨_, awake⟩ := now
  obtain rfl : _ = some w := hset'
  rw [hear_of_not_called h]

/-- With a wake word set, one that does not listen at first looks back on one utterance. -/
theorem looksBackOnOne (hset : g.wakeWord = some w) (hasleep : g.awake = false) :
    LooksBackOnOne g w where
  by_last earlier earlier' u hlast := by
    rw [answer, answer, after_congr hset hlast]
  called u hcalled := by
    obtain ⟨rest, hfound⟩ : ∃ rest, afterWakeWord? w u = some rest := by
      rw [← Option.ne_none_iff_exists', Ne, ← not_called_iff, not_not]
      exact hcalled
    refine ⟨rest, calledBefore_iff.2 hfound, ?_⟩
    intro awake
    rw [hear_of_called hfound]
  passed earlier u hcalled := by
    rw [answer_of_not_called hset (not_called_iff.1 hcalled), ← awake_after_iff hset hasleep]
    -- an utterance without the wake word is passed on just by an awake gate
    cases (g.after earlier).awake with
    | true => simp
    | false => simp
  ignored earlier u hcalled := by
    rw [answer_of_not_called hset (not_called_iff.1 hcalled), ← awake_after_iff hset hasleep]
    cases (g.after earlier).awake with
    | true => simp
    | false => simp

/-- **Attention looks back on one utterance**: with a wake word set, the answer to an utterance
    depends on it and the one directly before it, and of that one only on whether it was answered by
    waking up. Without a wake word every utterance is a command as it stands. -/
theorem looks_back_on_one (configured : Option (List Char)) :
    (∀ w, (ofWakeWord configured).wakeWord = some w →
        LooksBackOnOne (ofWakeWord configured) w) ∧
      ((ofWakeWord configured).wakeWord = none →
        ∀ earlier u, (ofWakeWord configured).answer earlier u = .command u) := by
  constructor
  · intro w hset
    exact looksBackOnOne hset rfl
  · intro hunset earlier u
    have hunset' : ((ofWakeWord configured).after earlier).wakeWord = none := by
      rw [wakeWord_after, hunset]
    unfold answer hear
    rw [hunset']

/-- The utterance after the wake word alone is a command, and the one after that is not. What
    follows the wake word in one utterance is a command at once, listened for or not, and leaves
    nothing to be listened for. -/
theorem looks_back_on_one_maestro : (ofWakeWord (some "Maestro".toList)).wakeWord =
      some "maestro".toList ∧ LooksBackOnOne (ofWakeWord (some "Maestro".toList)) "maestro".toList ∧
      (ofWakeWord (some "Maestro".toList)).answer ["hey maestro!".toList] "help".toList =
        .command "help".toList ∧
      (ofWakeWord (some "Maestro".toList)).answer ["hey maestro!".toList, "help".toList]
        "help".toList = .ignored ∧
      Called "maestro".toList "Hey Maestro, next page".toList ∧
      (∀ earlier ∈ [[], ["hey maestro!".toList]],
        (ofWakeWord (some "Maestro".toList)).answer earlier "Hey Maestro, next page".toList =
          .command "next page".toList) ∧
      (ofWakeWord (some "Maestro".toList)).answer ["Hey Maestro, next page".toList]
        "help".toList = .ignored := by
  have hset : (ofWakeWord (some "Maestro".toList)).wakeWord = some "maestro".toList := by
    decide +kernel
  have hcalled : Called "maestro".toList "Hey Maestro, next page".toList := by
    rw [← not_not (a := Called _ _), not_called_iff]
    decide +kernel
  exact ⟨hset, (looks_back_on_one _).1 _ hset, by decide +kernel, by decide +kernel, hcalled,
    by decide +kernel, by decide +kernel⟩

end Attention

end Rehearsal
