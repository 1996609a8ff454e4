import Rehearsal.Proofs.Text.Traits

/-! # Lower case and the case of basic Latin letters

  Two comparisons leave case out of account. One puts both texts in lower case by the full rules;
  the other, `sameLetters`, only knows the basic Latin letters. A text and its own lower-case form
  are the same for the second one exactly if every character that lower case changes is a basic
  Latin letter. Folding, the comparison that patterns use, agrees with the second one on words
  without `k` and `s`.

  Main statements: `sameLetters_lowercase_iff`, `map_foldLetter_eq_iff`.
-/

namespace Rehearsal.Text

variable {c d : Char}

/-! ## One character -/

theorem lowerChar_of_latin (h : c.toNat < 0x80) : lowerChar c = [c.toLower] := by
  -- few enough to go through them one by one
  have table : ((List.range 0x80).all fun n =>
      lowerChar (Char.ofNat n) == [(Char.ofNat n).toLower]) = true := by decide +kernel
  have hc := List.all_eq_true.1 table c.toNat (List.mem_range.2 h)
  rwa [Char.ofNat_toNat, beq_iff_eq] at hc

/-- A character beyond basic Latin is not the lower-case form of a basic Latin letter. -/
theorem eq_of_toLower_eq (hc : 0x80 ≤ c.toNat) (h : d.toLower = c) : d = c := by
  by_cases hupper : d.isUpper = true
  · -- the form of a capital lies in basic Latin, and `c` does not
    have hrange := isUpper_iff_toNat.1 hupper
    rw [← h, Char.toLower_eq_of_isUpper hupper, Char.toNat_ofNat, if_pos (Or.inl (by omega))] at hc
    omega
  · rwa [Char.toLower_eq_of_not_isUpper hupper] at h

/-- A character and its lower-case form are the same letter only if the form is the one that basic
    Latin letters have. -/
theorem toLower_eq_iff_lowerChar (h : lowerChar c = [d]) :
    c.toLower = d.toLower ↔ lowerChar c = [c.toLower] := by
  rw [h, List.singleton_inj]
  -- on basic Latin the two forms are one; beyond it `toLower` changes nothing
  by_cases hc : c.toNat < 0x80
  · have hd : d = c.toLower := by
      rw [lowerChar_of_latin hc, List.singleton_inj] at h
      exact h.symm
    simp [hd]
  · have hself : c.toLower = c := toLower_of_beyond (Nat.le_of_not_lt hc)
    rw [hself]
    constructor
    · intro hletter
      exact eq_of_toLower_eq (Nat.le_of_not_lt hc) hletter.symm
    · rintro rfl
      exact hself.symm

/-! ## Texts -/

theorem sameLetters_cons (c d : Char) (cs ds : List Char) :
    sameLetters (c :: cs) (d :: ds) = true ↔ c.toLower = d.toLower ∧ sameLetters cs ds = true := by
  simp [sameLetters]

theorem length_eq_of_sameLetters {cs ds : List Char} (h : sameLetters cs ds = true) :
    cs.length = ds.length := by
  rw [sameLetters, beq_iff_eq] at h
  have hlength := congrArg List.length h
  rwa [List.length_map, List.length_map] at hlength

/-- The lower-case form of a character is a first character, and a second one for U+0130. -/
theorem lowercaseFrom_cons (afterCased : Bool) (c : Char) (cs : List Char) :
    ∃ d ds after, lowercaseFrom afterCased (c :: cs) = d :: ds ++ lowercaseFrom after cs ∧
      ((c.toLower = d.toLower ∧ ds = []) ↔ lowerChar c = [c.toLower]) := by
  rw [lowercaseFrom]
  by_cases hsigma : c = 'Σ'
  · -- neither sigma is a basic Latin letter
    subst hsigma
    refine ⟨_, [], _, by rw [if_pos rfl], ?_⟩
    split
    · decide +kernel
    · decide +kernel
  · rw [if_neg hsigma]
    -- the capital with a dot is the one letter with two characters in its form
    by_cases hdotted : c = '\u0130'
    · subst hdotted
      exact ⟨'i', ['\u0307'], _, rfl, by decide⟩
    · obtain ⟨d, hd, -⟩ := traits_lowerChar hdotted
      refine ⟨d, [], _, by rw [hd], ?_⟩
      simpa using toLower_eq_iff_lowerChar hd

theorem length_le_lowercaseFrom (cs : List Char) (afterCased : Bool) :
    cs.length ≤ (lowercaseFrom afterCased cs).length := by
  induction cs generalizing afterCased with
  | nil => exact Nat.zero_le _
  | cons c cs ih =>
    obtain ⟨d, ds, after, hform, -⟩ := lowercaseFrom_cons afterCased c cs
    have hle := ih after
    rw [hform, List.length_cons, List.cons_append, List.length_cons, List.length_append]
    omega

theorem sameLetters_lowercaseFrom_iff (cs : List Char) (afterCased : Bool) :
    sameLetters cs (lowercaseFrom afterCased cs) = true ↔ ∀ c ∈ cs, lowerChar c = [c.toLower] := by
  induction cs generalizing afterCased with
  | nil => simp [lowercaseFrom, sameLetters]
  | cons c cs ih =>
    obtain ⟨d, ds, after, hform, hchar⟩ := lowercaseFrom_cons afterCased c cs
    rw [hform, List.cons_append, sameLetters_cons, List.forall_mem_cons, ← hchar, ← ih after]
    constructor
    · rintro ⟨hletter, hrest⟩
      -- a second character would make the lower-case form too long
      have hds : ds = [] := by
        have hlength := length_eq_of_sameLetters hrest
        have hle := length_le_lowercaseFrom cs after
        rw [List.length_append] at hlength
        refine List.eq_nil_of_length_eq_zero ?_
        omega
      rw [hds, List.nil_append] at hrest
      exact ⟨⟨hletter, hds⟩, hrest⟩
    · rintro ⟨⟨hletter, hds⟩, hrest⟩
      rw [hds, List.nil_append]
      exact ⟨hletter, hrest⟩

/-- **A text has the same letters in lower case** exactly if the full rules and those for basic
    Latin agree on each of its characters. -/
theorem sameLetters_lowercase_iff (cs : List Char) :
    sameLetters cs (lowercase cs) = true ↔ ∀ c ∈ cs, lowerChar c = [c.toLower] :=
  sameLetters_lowercaseFrom_iff cs false

/-! ## Folded letters -/

/-- Besides its capital, only the long s folds to a letter other than `k`. -/
theorem foldLetter_eq_iff (hlower : d.isLower = true) (hk : d ≠ 'k') :
    foldLetter c = d ↔ d.toLower = c.toLower ∨ d = 's' ∧ c = '\u017F' := by
  have hother : ∀ c : Char, c.toLower.isLower = false → d ≠ c.toLower := by
    intro c hc hd
    rw [← hd, hlower] at hc
    cases hc
  rw [Char.toLower_eq_of_not_isUpper (Char.not_isUpper_of_isLower hlower)]
  unfold foldLetter
  -- the long s and the kelvin sign are the two letters beyond basic Latin
  by_cases hlong : c = '\u017F'
  · subst hlong
    have hne := hother '\u017F' (by decide)
    rw [if_pos rfl]
    constructor
    · exact fun hd => .inr ⟨hd.symm, rfl⟩
    · exact fun h => (h.resolve_left hne).1.symm
  · rw [if_neg hlong, or_iff_left fun h => hlong h.2]
    by_cases hkelvin : c = '\u212A'
    · subst hkelvin
      have hne := hother '\u212A' (by decide)
      rw [if_pos rfl]
      exact iff_of_false hk.symm hne
    · rw [if_neg hkelvin]
      exact eq_comm

/-- On a word without `k` and `s`, folding leaves the case of basic Latin letters out of account
    and nothing else. -/
theorem map_foldLetter_eq_iff {word cs : List Char}
    (hword : (word.all fun d => d.isLower && d != 'k' && d != 's') = true) :
    cs.map foldLetter = word ↔ sameLetters word cs = true := by
  induction word generalizing cs with
  | nil =>
    cases cs with
    | nil => simp [sameLetters]
    | cons c cs => simp [sameLetters]
  | cons d word ih =>
    simp only [List.all_cons, Bool.and_eq_true, bne_iff_ne] at hword
    -- without `k` and `s` no letter beyond basic Latin counts as the same
    obtain ⟨⟨⟨hlower, hk⟩, hs⟩, hback⟩ := hword
    cases cs with
    | nil => simp [sameLetters]
    | cons c cs =>
      rw [List.map_cons, List.cons.injEq, sameLetters_cons, ih hback,
        foldLetter_eq_iff hlower hk, or_iff_left fun h => hs h.1]

end Rehearsal.Text
