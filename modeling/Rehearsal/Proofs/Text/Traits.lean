import Mathlib
import Rehearsal.Proofs.Text.Ranges
import Rehearsal.Text.Lowercase

/-! # What a reader of values sees of a character

  The values of an utterance depend on its characters only through their `Traits`: the classes
  that patterns ask about, the basic Latin letter that a character folds to, and its value as a
  digit. Two characters with the same traits are the same to every finder.

  A character and its lower-case form have the same traits, but for two letters that patterns do
  not know yet: their lower-case forms are word characters and they are not. `knownForm` puts
  the lower-case forms in their place.

  The table of lower-case forms is compared with the tables of the classes as a whole, by ranges
  and not character by character. `caseLetters` is the table that makes this possible.

  Main statement: `traits_lowerChar`.
-/

namespace Rehearsal.Text

/-! ## The classes -/

theorem wordCharacters_inOrder : wordCharacters.inOrder = true := by decide +kernel

theorem isWord_of_isDecimalDigit {c : Char} (h : isDecimalDigit c = true) : isWord c = true :=
  Ranges.contains_of_coversAll wordCharacters_inOrder (by decide +kernel) h

theorem not_isWord_of_isBlank {c : Char} (h : isBlank c = true) : isWord c = false :=
  Ranges.not_contains_of_apart (by decide +kernel) h

theorem isUpper_iff_toNat {c : Char} : c.isUpper = true ↔ 0x41 ≤ c.toNat ∧ c.toNat ≤ 0x5A := by
  simp [Char.isUpper, UInt32.le_iff_toNat_le, ← Char.toNat_val]

theorem toLower_of_beyond {c : Char} (hc : 0x80 ≤ c.toNat) : c.toLower = c := by
  refine Char.toLower_eq_of_not_isUpper ?_
  intro hupper
  have hrange := isUpper_iff_toNat.1 hupper
  omega

/-! ## Traits -/

/-- What a reader of values sees of a character. -/
structure Traits where
  word : Bool
  digit : Bool
  blank : Bool
  /-- It is the combining dot that remains of U+0130 in lower case. -/
  dot : Bool
  folded : Option Char
  /-- The basic Latin letter other than `k` that it is but for its case. -/
  letter : Option Char
  value : Option Char
  deriving DecidableEq, Repr

def traits (c : Char) : Traits where
  word := isWord c
  digit := isDecimalDigit c
  blank := isBlank c
  dot := c == '\u0307'
  folded := Option.guard Char.isLower (foldLetter c)
  letter := Option.guard (fun x => x.isLower && x != 'k') c.toLower
  value := Option.guard Char.isDigit c

/-- The traits of a letter beyond basic Latin, or of any other character of a word that is
    nothing else. -/
def letterTraits : Traits := ⟨true, false, false, false, none, none, none⟩

/-- The traits of a character that is nothing to a reader. -/
def otherTraits : Traits := { letterTraits with word := false }

/-- Characters of words beyond basic Latin, among them all letters that have a lower-case form or
    are one, as far as patterns know them. -/
def caseLetters : Ranges := [
  (0xC0, 0xD6), (0xD8, 0xF6), (0xF8, 0x17E), (0x180, 0x29E), (0x370, 0x373), (0x376, 0x377),
  (0x37B, 0x37D), (0x37F, 0x37F), (0x386, 0x386), (0x388, 0x38A), (0x38C, 0x38C), (0x38E, 0x3A1),
  (0x3A3, 0x3F4), (0x3F7, 0x481), (0x48A, 0x52F), (0x531, 0x556), (0x561, 0x586), (0x10A0, 0x10C5),
  (0x10C7, 0x10C7), (0x10CD, 0x10CD), (0x10D0, 0x10FA), (0x10FD, 0x10FF), (0x13A0, 0x13F5),
  (0x13F8, 0x13FD), (0x1C89, 0x1C8A), (0x1C90, 0x1CBA), (0x1CBD, 0x1CBF), (0x1D79, 0x1F15),
  (0x1F18, 0x1F1D), (0x1F20, 0x1F45), (0x1F48, 0x1F4D), (0x1F51, 0x1F57), (0x1F59, 0x1F59),
  (0x1F5B, 0x1F5B), (0x1F5D, 0x1F5D), (0x1F5F, 0x1F7D), (0x1F80, 0x1FB3), (0x1FB8, 0x1FBC),
  (0x1FC3, 0x1FC3), (0x1FC8, 0x1FCC), (0x1FD0, 0x1FD1), (0x1FD8, 0x1FDB), (0x1FE0, 0x1FEC),
  (0x1FF3, 0x1FF3), (0x1FF8, 0x1FFC), (0x2126, 0x2126), (0x212B, 0x212B), (0x2132, 0x2132),
  (0x214E, 0x214E), (0x2160, 0x2184), (0x24B6, 0x24E9), (0x2C00, 0x2CE3), (0x2CEB, 0x2CF3),
  (0x2D00, 0x2D25), (0x2D27, 0x2D27), (0x2D2D, 0x2D2D), (0xA640, 0xA66D), (0xA680, 0xA69B),
  (0xA722, 0xA787), (0xA78B, 0xA7CD), (0xA7D0, 0xA7D1), (0xA7D3, 0xA7D3), (0xA7D5, 0xA7DC),
  (0xA7F5, 0xA7F6), (0xAB53, 0xAB53), (0xAB70, 0xABBF), (0xFF21, 0xFF3A), (0xFF41, 0xFF5A),
  (0x10400, 0x1044F), (0x104B0, 0x104D3), (0x104D8, 0x104FB), (0x10570, 0x1057A),
  (0x1057C, 0x1058A), (0x1058C, 0x10592), (0x10594, 0x10595), (0x10597, 0x105A1),
  (0x105A3, 0x105B1), (0x105B3, 0x105B9), (0x105BB, 0x105BC), (0x10C80, 0x10CB2),
  (0x10CC0, 0x10CF2), (0x10D50, 0x10D65), (0x10D70, 0x10D85), (0x118A0, 0x118DF),
  (0x16E40, 0x16E7F), (0x1E900, 0x1E943)]

/-- Letters with a lower-case form, and their forms, that patterns do not know. -/
def newLetters : Ranges := [(0xA7CE, 0xA7CF), (0x16EA0, 0x16EB8), (0x16EBB, 0x16ED3)]

/-- The characters that have traits besides their classes: basic Latin, the long s, the dot and
    the kelvin sign. -/
def specialCharacters : Ranges := [(0x0, 0x7F), (0x17F, 0x17F), (0x307, 0x307), (0x212A, 0x212A)]

section Classes

variable {c : Char}

/-- Beyond the special characters only the classes count. -/
theorem traits_of_not_special (h : specialCharacters.contains c.toNat = false) :
    traits c = ⟨isWord c, isDecimalDigit c, isBlank c, false, none, none, none⟩ := by
  -- outside of basic Latin no letter has a case of its own, and no digit has a value
  have hbeyond : 0x7F < c.toNat := by
    by_contra hle
    have hlatin : ((0x0, 0x7F) : Nat × Nat) ∈ specialCharacters := List.mem_cons_self
    rw [Ranges.contains_of_mem rfl hlatin (Nat.zero_le _) (by omega)] at h
    cases h
  have hne : ∀ d : Char, specialCharacters.contains d.toNat = true → c ≠ d := by
    rintro d hd rfl
    rw [hd] at h
    cases h
  have hself : c.toLower = c := toLower_of_beyond hbeyond
  have hlower : ¬ c.isLower = true := by
    simp [Char.isLower, UInt32.le_iff_toNat_le]
    omega
  have hdigit : ¬ c.isDigit = true := by
    rw [Char.isDigit_iff_toNat]
    exact fun h => absurd (Nat.lt_of_lt_of_le hbeyond h.2) (by decide)
  have hfold : foldLetter c = c := by
    unfold foldLetter
    rw [if_neg (hne '\u017F' rfl), if_neg (hne '\u212A' rfl), hself]
  unfold traits
  rw [hfold, hself]
  simp [Option.guard, hlower, hdigit, hne '\u0307' rfl]

theorem traits_of_caseLetters (h : caseLetters.contains c.toNat = true) :
    traits c = letterTraits := by
  rw [traits_of_not_special (Ranges.not_contains_of_apart (by decide +kernel) h)]
  have hword : isWord c = true :=
    Ranges.contains_of_coversAll wordCharacters_inOrder (by decide +kernel) h
  have hdigit : isDecimalDigit c = false := Ranges.not_contains_of_apart (by decide +kernel) h
  have hblank : isBlank c = false := Ranges.not_contains_of_apart (by decide +kernel) h
  rw [hword, hdigit, hblank]
  rfl

theorem traits_of_newLetters (h : newLetters.contains c.toNat = true) :
    traits c = otherTraits := by
  rw [traits_of_not_special (Ranges.not_contains_of_apart (by decide +kernel) h)]
  have hword : isWord c = false := Ranges.not_contains_of_apart (by decide +kernel) h
  have hdigit : isDecimalDigit c = false := Ranges.not_contains_of_apart (by decide +kernel) h
  have hblank : isBlank c = false := Ranges.not_contains_of_apart (by decide +kernel) h
  rw [hword, hdigit, hblank]
  rfl

/-- What folds to a basic Latin letter belongs to words and is no digit. -/
theorem word_of_folded {x : Char} (h : (traits c).folded = some x) :
    isWord c = true ∧ isDecimalDigit c = false := by
  cases hspecial : specialCharacters.contains c.toNat with
  | false =>
    rw [traits_of_not_special hspecial] at h
    cases h
  | true =>
    -- few enough to go through them one by one
    have hc := Ranges.of_allCharacters (fun c =>
      (traits c).folded.isNone || ((traits c).word && !(traits c).digit))
      (by decide +kernel) hspecial
    simp only [h, Option.isNone_some, Bool.false_or, Bool.and_eq_true, Bool.not_eq_true'] at hc
    exact hc

end Classes

/-! ## Lower case keeps the traits -/

/-- The letters whose lower-case forms patterns know, but not the letters themselves, are
    replaced by these forms. -/
def knownForm (c : Char) : Char :=
  if c = '\uA7D2' then '\uA7D3' else if c = '\uA7D4' then '\uA7D5' else c

/-- The code point of the lower-case form of a character of the run. -/
def CaseRun.image (r : CaseRun) (n : Nat) : Nat := ((n : Int) + r.offset).toNat

def CaseRun.characters (r : CaseRun) : List Nat :=
  List.range' r.first ((r.last - r.first) / r.stride + 1) r.stride

/-- Whether the run keeps the traits, known letters and new ones as a whole and all others one
    by one. -/
def CaseRun.keepsTraits (r : CaseRun) : Bool :=
  (caseLetters.covers r.first r.last && caseLetters.covers (r.image r.first) (r.image r.last)) ||
    (newLetters.covers r.first r.last && newLetters.covers (r.image r.first) (r.image r.last)) ||
    r.characters.all fun n =>
      traits (knownForm (Char.ofNat n)) == traits (Char.ofNat (r.image n))

theorem caseRuns_keepTraits : caseRuns.all CaseRun.keepsTraits = true := by decide +kernel

theorem CaseRun.find?_eq_some {runs : List CaseRun} {n : Nat} {r : CaseRun}
    (h : CaseRun.find? runs n = some r) : r ∈ runs ∧ r.contains n = true := by
  induction runs with
  | nil => cases h
  | cons first rest ih =>
    unfold CaseRun.find? at h
    split at h
    · cases h
    · split at h
      · obtain rfl := Option.some.inj h
        exact ⟨List.mem_cons_self, by assumption⟩
      · exact ⟨List.mem_cons_of_mem _ (ih h).1, (ih h).2⟩

theorem CaseRun.bounds {r : CaseRun} {n : Nat} (h : r.contains n = true) :
    r.first ≤ n ∧ n ≤ r.last := by
  simp only [CaseRun.contains, Bool.and_eq_true, decide_eq_true_eq] at h
  exact h.1

theorem CaseRun.mem_characters {r : CaseRun} {n : Nat} (h : r.contains n = true) :
    n ∈ r.characters := by
  obtain ⟨low_le, le_high⟩ := CaseRun.bounds h
  simp only [CaseRun.contains, Bool.and_eq_true, beq_iff_eq] at h
  have hdiv : r.stride * ((n - r.first) / r.stride) = n - r.first := by
    have := Nat.div_add_mod (n - r.first) r.stride
    omega
  refine List.mem_range'.2 ⟨(n - r.first) / r.stride, ?_, by omega⟩
  exact Nat.lt_succ_of_le (Nat.div_le_div_right (by omega))

theorem toNat_ofNat_of_contains {ranges : Ranges} {n : Nat}
    (h : ranges.all (fun range => Nat.blt range.2 0xD800 ||
      (Nat.blt 0xDFFF range.1 && Nat.blt range.2 0x110000)) = true)
    (hn : ranges.contains n = true) : (Char.ofNat n).toNat = n := by
  obtain ⟨range, hrange, low_le, le_high⟩ := Ranges.exists_of_contains hn
  have hvalid := List.all_eq_true.1 h range hrange
  rw [Bool.or_eq_true, Bool.and_eq_true, Nat.blt_eq, Nat.blt_eq, Nat.blt_eq] at hvalid
  rw [Char.toNat_ofNat, if_pos (show n < 0xD800 ∨ 0xDFFF < n ∧ n < 0x110000 by omega)]

theorem knownForm_of_contains {ranges : Ranges} {c : Char} (h : ranges.contains c.toNat = true)
    (hfirst : ranges.contains 0xA7D2 = false) (hsecond : ranges.contains 0xA7D4 = false) :
    knownForm c = c := by
  have hne : ∀ d : Char, ranges.contains d.toNat = false → c ≠ d := by
    rintro d hd rfl
    rw [hd] at h
    cases h
  unfold knownForm
  rw [if_neg (hne '\uA7D2' hfirst), if_neg (hne '\uA7D4' hsecond)]

theorem traits_image {r : CaseRun} {c : Char} (hr : r ∈ caseRuns)
    (hc : r.contains c.toNat = true) :
    traits (knownForm c) = traits (Char.ofNat (r.image c.toNat)) := by
  have hbounds := CaseRun.bounds hc
  have himage : r.image r.first ≤ r.image c.toNat ∧ r.image c.toNat ≤ r.image r.last := by
    unfold CaseRun.image
    omega
  have hkeeps := List.all_eq_true.1 caseRuns_keepTraits r hr
  simp only [CaseRun.keepsTraits, Bool.or_eq_true, Bool.and_eq_true] at hkeeps
  rcases hkeeps with (⟨hfrom, hto⟩ | ⟨hfrom, hto⟩) | hall
  -- a run of known letters
  · have hfrom := Ranges.contains_of_covers (by decide) hfrom hbounds.1 hbounds.2
    have hto := Ranges.contains_of_covers (by decide) hto himage.1 himage.2
    rw [knownForm_of_contains hfrom (by decide) (by decide), traits_of_caseLetters hfrom,
      traits_of_caseLetters]
    rwa [toNat_ofNat_of_contains (by decide) hto]
  -- a run of new letters
  · have hfrom := Ranges.contains_of_covers (by decide) hfrom hbounds.1 hbounds.2
    have hto := Ranges.contains_of_covers (by decide) hto himage.1 himage.2
    rw [knownForm_of_contains hfrom (by decide) (by decide), traits_of_newLetters hfrom,
      traits_of_newLetters]
    rwa [toNat_ofNat_of_contains (by decide) hto]
  -- a run that was compared character by character
  · have h := List.all_eq_true.1 hall _ (CaseRun.mem_characters hc)
    rwa [Char.ofNat_toNat, beq_iff_eq] at h

/-- **Lower case keeps the traits**: every character but U+0130 has one character as its
    lower-case form, and the two have the same traits once the two letters that patterns do not
    know are replaced by their lower-case forms. -/
theorem traits_lowerChar {c : Char} (hc : c ≠ '\u0130') :
    ∃ d, lowerChar c = [d] ∧ traits (knownForm c) = traits d := by
  unfold lowerChar
  rw [if_neg hc]
  split
  · rename_i r hfind
    obtain ⟨hr, hcontains⟩ := CaseRun.find?_eq_some hfind
    exact ⟨_, rfl, traits_image hr hcontains⟩
  · rename_i hfind
    -- the two letters are in a run, so `c` is neither of them
    refine ⟨c, rfl, congrArg traits ?_⟩
    have hne : ∀ d : Char, (CaseRun.find? caseRuns d.toNat).isSome = true → c ≠ d := by
      rintro d hd rfl
      rw [hfind] at hd
      cases hd
    unfold knownForm
    rw [if_neg (hne '\uA7D2' (by decide +kernel)), if_neg (hne '\uA7D4' (by decide +kernel))]

end Rehearsal.Text
