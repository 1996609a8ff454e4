import Mathlib.Data.List.DropRight
import Mathlib.Data.List.TakeWhile
import Rehearsal.Text.Pieces

/-! # Words, and what surrounds them

  Cutting a text at a blank cuts its words apart, and white space at either end makes no
  difference to them: `words_append_blank` and `words_trim`. A word has no white space in it and
  is a part of the text.

  Words joined by single spaces make a text without white space at its ends.
-/

namespace Rehearsal.Text

variable {p : Char → Bool} {c : Char} {cs w : List Char} {ws : List (List Char)}

/-! ## Ends -/

theorem dropEndWhile_eq_rdropWhile (p : Char → Bool) (cs : List Char) :
    dropEndWhile p cs = cs.rdropWhile p := rfl

theorem exists_trimEnd_append (cs : List Char) :
    ∃ blank, cs = trimEnd cs ++ blank ∧ ∀ c ∈ blank, isBlank c = true := by
  refine ⟨cs.rtakeWhile isBlank, ?_, ?_⟩
  · rw [trimEnd, dropEndWhile_eq_rdropWhile, List.rdropWhile_append_rtakeWhile]
  · intro c hc
    exact List.mem_rtakeWhile_imp hc

theorem trimWhile_sublist (p : Char → Bool) (cs : List Char) : (trimWhile p cs).Sublist cs := by
  unfold trimWhile
  rw [dropEndWhile_eq_rdropWhile]
  exact (List.rdropWhile_prefix p _).sublist.trans (List.dropWhile_sublist p)

/-- Nothing is dropped at either end exactly if nothing there belongs to the class. -/
theorem trimWhile_eq_self_iff : trimWhile p cs = cs ↔
    (∀ c ∈ cs.head?, p c = false) ∧ ∀ c ∈ cs.getLast?, p c = false := by
  have hfront : cs.dropWhile p = cs ↔ ∀ c ∈ cs.head?, p c = false := by
    cases cs with
    | nil => simp
    | cons c cs => simp [List.dropWhile_eq_self_iff]
  -- a last character is there only in a text that is not empty
  have hend : cs.rdropWhile p = cs ↔ ∀ c ∈ cs.getLast?, p c = false := by
    rw [List.rdropWhile_eq_self_iff]
    constructor
    · intro h c hc
      obtain ⟨hne, hlast⟩ := List.mem_getLast?_eq_getLast hc
      rw [hlast]
      simpa using h hne
    · intro h hne
      simpa using h _ (List.getLast?_eq_some_getLast hne)
  rw [← hfront, ← hend]
  unfold trimWhile
  rw [dropEndWhile_eq_rdropWhile]
  constructor
  · -- neither of the two steps can have dropped anything
    intro h
    have hdrop : cs.dropWhile p = cs := by
      refine (List.dropWhile_sublist p).eq_of_length_le ?_
      have hle := (List.rdropWhile_prefix p (cs.dropWhile p)).length_le
      rwa [h] at hle
    rw [hdrop] at h
    exact ⟨hdrop, h⟩
  · rintro ⟨hdrop, h⟩
    rw [hdrop, h]

/-- What is dropped at the ends does not belong to them any more. -/
theorem edges_trimWhile (p : Char → Bool) (cs : List Char) :
    (∀ c ∈ (trimWhile p cs).head?, p c = false) ∧ ∀ c ∈ (trimWhile p cs).getLast?, p c = false := by
  unfold trimWhile
  rw [dropEndWhile_eq_rdropWhile]
  constructor
  · intro c hc
    -- the first character is also the first one that is left in front
    obtain ⟨dropped, hsplit⟩ := List.rdropWhile_prefix p (cs.dropWhile p)
    have hhead : (cs.dropWhile p).head? = some c := by
      rw [← hsplit, List.head?_append, Option.mem_def.1 hc, Option.some_or]
    have hfront := List.head?_dropWhile_not p cs
    rw [hhead] at hfront
    exact hfront
  · intro c hc
    obtain ⟨hne, hlast⟩ := List.mem_getLast?_eq_getLast hc
    rw [hlast]
    simpa using List.rdropWhile_last_not p (cs.dropWhile p) hne

theorem trim_eq_trimWhile (cs : List Char) : trim cs = trimWhile isBlank cs := rfl

theorem trim_eq_self (h : ∀ c ∈ cs, isBlank c = false) : trim cs = cs := by
  rw [trim_eq_trimWhile, trimWhile_eq_self_iff]
  constructor
  · exact fun c hc => h c (List.mem_of_mem_head? hc)
  · exact fun c hc => h c (List.mem_of_mem_getLast? hc)

theorem trim_cons_blank (h : isBlank c = true) (cs : List Char) : trim (c :: cs) = trim cs := by
  unfold trim trimStart
  rw [List.dropWhile_cons_of_pos h]

theorem trim_append_blank (h : isBlank c = true) (cs : List Char) :
    trim (cs ++ [c]) = trim cs := by
  unfold trim trimStart
  rw [List.dropWhile_append]
  split
  · rename_i hempty
    rw [List.isEmpty_iff.1 hempty, List.dropWhile_cons_of_pos h]
    rfl
  · unfold trimEnd
    rw [dropEndWhile_eq_rdropWhile, List.rdropWhile_concat_pos _ _ _ h]
    rfl

/-! ## Words -/

theorem pieces_eq_splitOnP (p : Char → Bool) (cs : List Char) : pieces p cs = cs.splitOnP p := by
  induction cs with
  | nil => rfl
  | cons c cs ih =>
    rw [pieces, List.splitOnP_cons_eq_if_modifyHead, ih]
    cases hcs : cs.splitOnP p with
    | nil => exact absurd hcs (List.splitOnP_ne_nil p cs)
    | cons first rest => simp

/-- A blank keeps the words on its two sides apart. -/
theorem words_append_blank (h : isBlank c = true) (as bs : List Char) :
    words (as ++ c :: bs) = words as ++ words bs := by
  unfold words
  rw [pieces_eq_splitOnP, pieces_eq_splitOnP, pieces_eq_splitOnP, List.splitOnP_append_cons as bs h,
    List.filter_append]

@[simp] theorem words_nil : words [] = [] := rfl

theorem words_cons_of_blank (h : isBlank c = true) (cs : List Char) :
    words (c :: cs) = words cs := by
  have hcut := words_append_blank h [] cs
  simpa using hcut

theorem words_trimStart (cs : List Char) : words (trimStart cs) = words cs := by
  unfold trimStart
  induction cs with
  | nil => rfl
  | cons c cs ih =>
    by_cases h : isBlank c = true
    · rw [List.dropWhile_cons_of_pos h, ih, words_cons_of_blank h]
    · rw [List.dropWhile_cons_of_neg h]

theorem words_append_of_blank {blank : List Char} (hblank : ∀ c ∈ blank, isBlank c = true)
    (cs : List Char) : words (cs ++ blank) = words cs := by
  cases blank with
  | nil => rw [List.append_nil]
  | cons c blank =>
    have hrest : trimStart blank = [] := by
      unfold trimStart
      rw [List.dropWhile_eq_nil_iff]
      exact fun d hd => hblank d (List.mem_cons_of_mem c hd)
    rw [words_append_blank (hblank c List.mem_cons_self), ← words_trimStart blank, hrest, words_nil,
      List.append_nil]

/-- White space at the ends makes no difference to the words. -/
theorem words_trim (cs : List Char) : words (trim cs) = words cs := by
  obtain ⟨blank, hsplit, hblank⟩ := exists_trimEnd_append (trimStart cs)
  have hwords : words (trim cs ++ blank) = words (trim cs) := words_append_of_blank hblank _
  rw [← hwords, trim, ← hsplit, words_trimStart]

theorem words_eq_singleton (hne : cs ≠ []) (h : ∀ c ∈ cs, isBlank c = false) :
    words cs = [cs] := by
  unfold words
  rw [pieces_eq_splitOnP, List.splitOnP_eq_singleton h]
  simp [hne]

theorem words_cons_of_not_blank (h : isBlank c = false) (cs : List Char) :
    ∃ w ws, words (c :: cs) = (c :: w) :: ws := by
  unfold words
  rw [pieces_eq_splitOnP, List.splitOnP_cons_eq_if_modifyHead]
  cases hcs : cs.splitOnP isBlank with
  | nil => exact absurd hcs (List.splitOnP_ne_nil isBlank cs)
  | cons first rest => simp [h]

theorem mem_pieces (h : w ∈ pieces p cs) : w.Sublist cs ∧ ∀ c ∈ w, p c = false := by
  induction cs generalizing w with
  | nil =>
    obtain rfl := List.mem_singleton.1 h
    simp
  | cons c cs ih =>
    unfold pieces at h
    split at h
    · obtain rfl := List.mem_singleton.1 h
      simp
    · rename_i first rest hrest
      rw [hrest] at ih
      by_cases hc : p c = true
      · rw [if_pos hc] at h
        rcases List.mem_cons.1 h with rfl | h
        · simp
        · exact ⟨(ih h).1.cons c, (ih h).2⟩
      · rw [if_neg hc] at h
        rcases List.mem_cons.1 h with rfl | h
        · -- the character is the beginning of the first piece
          obtain ⟨hsub, hfirst⟩ := ih (w := first) List.mem_cons_self
          refine ⟨hsub.cons_cons c, ?_⟩
          intro d hd
          rcases List.mem_cons.1 hd with rfl | hd
          · simpa using hc
          · exact hfirst d hd
        · have hw := ih (List.mem_cons_of_mem first h)
          exact ⟨hw.1.cons c, hw.2⟩

theorem mem_words (h : w ∈ words cs) : w.Sublist cs ∧ w ≠ [] ∧ ∀ c ∈ w, isBlank c = false := by
  unfold words at h
  obtain ⟨hpiece, hne⟩ := List.mem_filter.1 h
  obtain ⟨hsub, hblank⟩ := mem_pieces hpiece
  exact ⟨hsub, by simpa using hne, hblank⟩

/-! ## Joined words -/

theorem unwords_cons (w : List Char) (ws : List (List Char)) :
    ∃ rest, unwords (w :: ws) = w ++ rest := by
  cases ws with
  | nil => exact ⟨[], by simp [unwords]⟩
  | cons next ws => exact ⟨[' '] ++ unwords (next :: ws), by simp [unwords]⟩

/-- The last character of joined words belongs to the last of them. -/
theorem exists_mem_of_getLast?_unwords (hne : ∀ w ∈ ws, w ≠ [])
    (h : c ∈ (unwords ws).getLast?) : ∃ w ∈ ws, c ∈ w := by
  induction ws with
  | nil => simp [unwords] at h
  | cons w ws ih =>
    cases ws with
    | nil =>
      have hmem : c ∈ w := by
        rw [unwords, List.intercalate_singleton] at h
        exact List.mem_of_getLast? h
      exact ⟨w, List.mem_cons_self, hmem⟩
    | cons next ws =>
      have hjoin : unwords (w :: next :: ws) = (w ++ [' ']) ++ unwords (next :: ws) := by
        simp [unwords]
      -- the last word is not empty, so the text ends within it
      have hnext : unwords (next :: ws) ≠ [] := by
        obtain ⟨rest, hrest⟩ := unwords_cons next ws
        have hword : next ≠ [] := hne next (by simp)
        simp [hrest, hword]
      rw [hjoin, List.getLast?_append_of_ne_nil _ hnext] at h
      obtain ⟨v, hv, hc⟩ := ih (fun v hv => hne v (List.mem_cons_of_mem w hv)) h
      exact ⟨v, List.mem_cons_of_mem w hv, hc⟩

/-- The words of a text that begins with no blank, joined, have no white space at the ends. -/
theorem trim_unwords_words (h : isBlank c = false) (cs : List Char) :
    trim (unwords (words (c :: cs))) = unwords (words (c :: cs)) := by
  rw [trim_eq_trimWhile, trimWhile_eq_self_iff]
  constructor
  -- the first character is `c`, the last one that of a word; neither is white space
  · intro d hd
    obtain ⟨w, ws, hwords⟩ := words_cons_of_not_blank h cs
    obtain ⟨rest, hrest⟩ := unwords_cons (c :: w) ws
    rw [hwords, hrest] at hd
    simp only [List.cons_append, List.head?_cons, Option.mem_def, Option.some.injEq] at hd
    rw [← hd]
    exact h
  · intro d hd
    obtain ⟨w, hw, hdw⟩ := exists_mem_of_getLast?_unwords (fun w hw => (mem_words hw).2.1) hd
    exact (mem_words hw).2.2 d hdw

end Rehearsal.Text
