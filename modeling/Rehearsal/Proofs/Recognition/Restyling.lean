import Mathlib.Logic.Relation
import Rehearsal.Proofs.Recognition.SameValues
import Rehearsal.Proofs.Text.LetterCase
import Rehearsal.Recognition.Classifier

/-! # What makes no difference to an utterance

  An utterance may be said in capitals or not, with straight or curly apostrophes, and with white
  space around it. None of this makes a difference to how it is classified, be it by the rules or
  by a statistical model.

  The text is read in three ways: the rules read it normalised, the model reads its terms, and the
  values are read out of it as it stands. `plain` puts each letter in lower case and each
  apostrophe in its straight form. Each of the three readings is shown to be the same for the plain
  text, and for the text with one more blank at either end.

  Main statement: `classify_restyled`.
-/

namespace Rehearsal

open Text

/-- A straight apostrophe or a curly one. -/
def isApostrophe (c : Char) : Bool := c == '\'' || c == '\u2018' || c == '\u2019'

/-- One change of style. -/
inductive Restyles : List Char → List Char → Prop where
  /-- A basic Latin letter changes its case. -/
  | letter (before after : List Char) {c d : Char} :
      c.toLower = d.toLower → Restyles (before ++ c :: after) (before ++ d :: after)
  /-- An apostrophe takes another form. -/
  | apostrophe (before after : List Char) {c d : Char} :
      isApostrophe c = true → isApostrophe d = true →
        Restyles (before ++ c :: after) (before ++ d :: after)
  /-- White space comes in front. -/
  | front {c : Char} (u : List Char) : isBlank c = true → Restyles u (c :: u)
  /-- White space comes at the end. -/
  | back {c : Char} (u : List Char) : isBlank c = true → Restyles u (u ++ [c])

/-- Any number of changes of style, made or taken back. -/
def Restyled : List Char → List Char → Prop := Relation.EqvGen Restyles

/-! ## Plain characters -/

/-- The character in lower case and with a straight apostrophe, basic Latin letters only. -/
def plain (c : Char) : Char := straight c.toLower

section Characters

variable {c : Char}

/-- What is the same for a basic Latin letter in either case, and for the three apostrophes, is the
    same for every character and its plain form. -/
theorem apply_plain {α : Type} [DecidableEq α] (f : Char → α)
    (hlatin : ((List.range 0x80).all fun n =>
      f (plain (Char.ofNat n)) == f (Char.ofNat n)) = true)
    (hopening : f '\'' = f '\u2018') (hclosing : f '\'' = f '\u2019') (c : Char) :
    f (plain c) = f c := by
  -- basic Latin letters are compared by a table; beyond them only the curly apostrophes have
  -- another plain form
  by_cases hc : c.toNat < 0x80
  · have htable := List.all_eq_true.1 hlatin c.toNat (List.mem_range.2 hc)
    rwa [Char.ofNat_toNat, beq_iff_eq] at htable
  · unfold plain straight
    rw [toLower_of_beyond (Nat.le_of_not_lt hc)]
    split
    · rename_i hcurly
      rw [Bool.or_eq_true, decide_eq_true_eq, decide_eq_true_eq] at hcurly
      rcases hcurly with rfl | rfl
      · exact hclosing
      · exact hopening
    · rfl

theorem traits_plain (c : Char) : traits (plain c) = traits c :=
  apply_plain traits (by decide +kernel) (by decide +kernel) (by decide +kernel) c

theorem isBlank_plain (c : Char) : isBlank (plain c) = isBlank c :=
  congrArg Traits.blank (traits_plain c)

theorem isCased_plain (c : Char) : isCased (plain c) = isCased c :=
  apply_plain isCased (by decide +kernel) (by decide +kernel) (by decide +kernel) c

theorem isCaseIgnorable_plain (c : Char) : isCaseIgnorable (plain c) = isCaseIgnorable c :=
  apply_plain isCaseIgnorable (by decide +kernel) (by decide +kernel) (by decide +kernel) c

theorem plain_eq_sigma (c : Char) : plain c = 'Σ' ↔ c = 'Σ' := by
  have h := apply_plain (· == 'Σ') (by decide +kernel) (by decide) (by decide) c
  rwa [Bool.eq_iff_iff, beq_iff_eq, beq_iff_eq] at h

theorem lowerChar_plain (c : Char) :
    (lowerChar (plain c)).map straight = (lowerChar c).map straight :=
  apply_plain (fun c => (lowerChar c).map straight) (by decide +kernel) (by decide +kernel)
    (by decide +kernel) c

/-- White space is its own lower-case form and does not count as a neighbour. -/
theorem lowerChar_of_isBlank (h : isBlank c = true) :
    lowerChar c = [c] ∧ isCased c = false ∧ isCaseIgnorable c = false := by
  -- few enough to go through them one by one
  have hc := Ranges.of_allCharacters (fun c =>
    lowerChar c == [c] && !isCased c && !isCaseIgnorable c) (by decide +kernel) h
  simp only [Bool.and_eq_true, beq_iff_eq, Bool.not_eq_true'] at hc
  exact ⟨hc.1.1, hc.1.2, hc.2⟩

end Characters

/-! ## Lower case -/

theorem startsCased_map_plain (cs : List Char) : startsCased (cs.map plain) = startsCased cs := by
  have hignorable : isCaseIgnorable ∘ plain = isCaseIgnorable := funext isCaseIgnorable_plain
  unfold startsCased
  rw [List.dropWhile_map, hignorable]
  cases cs.dropWhile isCaseIgnorable with
  | nil => rfl
  | cons c rest => exact isCased_plain c

/-- The plain text has the lower-case form of the text, but for its apostrophes. -/
theorem lowercaseFrom_map_plain (cs : List Char) (afterCased : Bool) :
    (lowercaseFrom afterCased (cs.map plain)).map straight =
      (lowercaseFrom afterCased cs).map straight := by
  -- a sigma depends on its neighbours, so what follows is carried along in `afterCased`
  induction cs generalizing afterCased with
  | nil => rfl
  | cons c cs ih =>
    rw [List.map_cons, lowercaseFrom, lowercaseFrom, startsCased_map_plain,
      isCaseIgnorable_plain, isCased_plain, List.map_append, List.map_append, ih]
    congr 1
    by_cases hsigma : c = 'Σ'
    · rw [if_pos hsigma, if_pos ((plain_eq_sigma c).2 hsigma)]
    · rw [if_neg hsigma, if_neg (fun h => hsigma ((plain_eq_sigma c).1 h)), lowerChar_plain]

theorem lowercase_cons_blank {c : Char} (h : isBlank c = true) (cs : List Char) :
    lowercase (c :: cs) = c :: lowercase cs := by
  obtain ⟨hlower, hcased, hignorable⟩ := lowerChar_of_isBlank h
  have hsigma : c ≠ 'Σ' := by
    rintro rfl
    exact absurd h (by decide)
  unfold lowercase
  rw [lowercaseFrom, if_neg hsigma, hlower, hcased, hignorable]
  rfl

theorem startsCased_append_blank {c : Char} (h : isBlank c = true) (cs : List Char) :
    startsCased (cs ++ [c]) = startsCased cs := by
  obtain ⟨-, hcased, hignorable⟩ := lowerChar_of_isBlank h
  unfold startsCased
  rw [List.dropWhile_append]
  cases cs.dropWhile isCaseIgnorable with
  | nil => simp [hignorable, hcased]
  | cons d rest => rfl

/-- White space at the end makes no sigma less final. -/
theorem lowercaseFrom_append_blank {c : Char} (h : isBlank c = true) (cs : List Char)
    (afterCased : Bool) :
    lowercaseFrom afterCased (cs ++ [c]) = lowercaseFrom afterCased cs ++ [c] := by
  induction cs generalizing afterCased with
  | nil =>
    -- only a sigma would look at what comes before it
    have hsigma : c ≠ 'Σ' := by
      rintro rfl
      exact absurd h (by decide)
    rw [List.nil_append]
    simp only [lowercaseFrom, if_neg hsigma, (lowerChar_of_isBlank h).1]
    rfl
  | cons d cs ih =>
    rw [List.cons_append, lowercaseFrom, lowercaseFrom, startsCased_append_blank h, ih,
      List.append_assoc]

/-! ## What the rules read -/

theorem trim_map_plain (u : List Char) : trim (u.map plain) = (trim u).map plain := by
  have hblank : isBlank ∘ plain = isBlank := funext isBlank_plain
  have hdrop : ∀ cs : List Char,
      (cs.map plain).dropWhile isBlank = (cs.dropWhile isBlank).map plain := by
    intro cs
    rw [List.dropWhile_map, hblank]
  unfold trim trimEnd trimStart dropEndWhile
  rw [hdrop, ← List.map_reverse, hdrop, List.map_reverse]

theorem normalize_map_plain (u : List Char) : normalize (u.map plain) = normalize u := by
  unfold normalize
  rw [trim_map_plain]
  exact lowercaseFrom_map_plain (trim u) false

/-! ## What the model reads -/

namespace Terms

theorem isSeparator_of_isBlank {c : Char} (h : isBlank c = true) : isSeparator c = true :=
  Ranges.of_allCharacters isSeparator (by decide +kernel) h

/-- The form of an apostrophe does not matter where it parts two words. -/
theorem pieces_map_straight (cs : List Char) :
    pieces isSeparator (cs.map straight) = pieces isSeparator cs := by
  induction cs with
  | nil => rfl
  | cons c cs ih =>
    simp only [List.map_cons, pieces, ih]
    -- a curly apostrophe separates words, and so does a straight one
    by_cases hcurly : (c = '\u2019' || c = '\u2018') = true
    · have hstraight : isSeparator (straight c) = true := by
        rw [straight, if_pos hcurly]
        decide +kernel
      have hself : isSeparator c = true := by
        rw [Bool.or_eq_true, decide_eq_true_eq, decide_eq_true_eq] at hcurly
        rcases hcurly with rfl | rfl
        · decide +kernel
        · decide +kernel
      simp only [if_pos hstraight, if_pos hself]
    · rw [straight, if_neg hcurly]

/-- The words of a phrase depend on its lower-case form, apostrophes left out of account. -/
theorem wordsOf_congr {u v : List Char}
    (h : (lowercase u).map straight = (lowercase v).map straight) : wordsOf u = wordsOf v := by
  unfold wordsOf
  rw [← pieces_map_straight (lowercase u), ← pieces_map_straight (lowercase v), h]

theorem of_map_plain (u : List Char) : of (u.map plain) = of u := by
  unfold of
  rw [wordsOf_congr (lowercaseFrom_map_plain u false)]

theorem of_cons_blank {c : Char} (h : isBlank c = true) (u : List Char) : of (c :: u) = of u := by
  have hwords : wordsOf (c :: u) = wordsOf u := by
    unfold wordsOf
    rw [lowercase_cons_blank h, pieces_eq_splitOnP, pieces_eq_splitOnP,
      ← List.nil_append (c :: lowercase u),
      List.splitOnP_append_cons [] (lowercase u) (isSeparator_of_isBlank h), List.filter_append]
    rfl
  unfold of
  rw [hwords]

theorem of_append_blank {c : Char} (h : isBlank c = true) (u : List Char) :
    of (u ++ [c]) = of u := by
  have hwords : wordsOf (u ++ [c]) = wordsOf u := by
    unfold wordsOf
    rw [lowercase, lowercaseFrom_append_blank h, pieces_eq_splitOnP, pieces_eq_splitOnP,
      List.splitOnP_append_cons _ [] (isSeparator_of_isBlank h), List.filter_append]
    exact List.append_nil _
  unfold of
  rw [hwords]

end Terms

theorem Model.predict_congr {u v : List Char} (h : Terms.of u = Terms.of v) (m : Model) :
    m.predict u = m.predict v := by
  unfold predict Features.vector Features.counts Features.columns
  rw [h]

/-! ## What the values are read from -/

theorem respelled_refl (cs : List Char) : Respelled cs cs := by
  induction cs with
  | nil => exact .blanks (by simp) (by simp)
  | cons c cs ih => exact .cons rfl ih

theorem respelled_map_plain (cs : List Char) : Respelled (cs.map plain) cs := by
  induction cs with
  | nil => exact .blanks (by simp) (by simp)
  | cons c cs ih => exact .cons (traits_plain c) ih

theorem respelled_append_blank {c : Char} (h : isBlank c = true) (cs : List Char) :
    Respelled (cs ++ [c]) cs := by
  induction cs with
  | nil => exact .blanks (by simpa using h) (by simp)
  | cons d cs ih => exact .cons rfl ih

namespace Slots

/-- Texts that are spelled alike behind the white space in front have the same values. -/
theorem fill_of_respelled {u v : List Char} (h : Respelled (trimStart u) (trimStart v))
    (kind : Kind) : fill kind u = fill kind v := by
  refine fill_congr ?_ kind
  intro f hf
  -- both texts are compared with the second one without the white space in front
  rw [Finder.find?_respelled hf h, Finder.find?_respelled hf (respelled_refl (trimStart v))]

theorem fill_map_plain (kind : Kind) (u : List Char) : fill kind (u.map plain) = fill kind u := by
  have hblank : isBlank ∘ plain = isBlank := funext isBlank_plain
  refine fill_of_respelled ?_ kind
  unfold trimStart
  rw [List.dropWhile_map, hblank]
  exact respelled_map_plain _

theorem fill_cons_blank {c : Char} (h : isBlank c = true) (kind : Kind) (u : List Char) :
    fill kind (c :: u) = fill kind u := by
  refine fill_of_respelled ?_ kind
  unfold trimStart
  rw [List.dropWhile_cons_of_pos h]
  exact respelled_refl _

theorem fill_append_blank {c : Char} (h : isBlank c = true) (kind : Kind) (u : List Char) :
    fill kind (u ++ [c]) = fill kind u := by
  refine fill_of_respelled ?_ kind
  unfold trimStart
  rw [List.dropWhile_append]
  split
  · rename_i hempty
    rw [List.isEmpty_iff.1 hempty, List.dropWhile_cons_of_pos h]
    exact respelled_refl _
  · exact respelled_append_blank h _

end Slots

/-! ## What an utterance is classified as -/

namespace Classifier

/-- An utterance is classified by its terms, its values and its normalised form. -/
theorem classify_congr {u v : List Char} (hterms : Terms.of u = Terms.of v)
    (hvalues : ∀ kind, Slots.fill kind u = Slots.fill kind v)
    (hnormal : normalize u = normalize v) (c : Classifier) : c.classify u = c.classify v := by
  have hprediction : c.prediction? u = c.prediction? v := by
    unfold prediction?
    congr 2
    funext m
    exact Model.predict_congr hterms m
  unfold classify
  rw [hprediction, hnormal]
  split
  · rw [hvalues]
  · rfl

theorem classify_map_plain (c : Classifier) (u : List Char) :
    c.classify (u.map plain) = c.classify u :=
  c.classify_congr (Terms.of_map_plain u) (Slots.fill_map_plain · u) (normalize_map_plain u)

theorem classify_replaced {x y : Char} (h : plain x = plain y) (c : Classifier)
    (before after : List Char) :
    c.classify (before ++ x :: after) = c.classify (before ++ y :: after) := by
  rw [← classify_map_plain, ← classify_map_plain c (before ++ y :: after), List.map_append,
    List.map_append, List.map_cons, List.map_cons, h]

theorem plain_of_isApostrophe {c : Char} (h : isApostrophe c = true) : plain c = '\'' := by
  simp only [isApostrophe, Bool.or_eq_true, beq_iff_eq] at h
  rcases h with (rfl | rfl) | rfl
  all_goals decide

/-- One change of style. -/
theorem classify_restyles {u v : List Char} (h : Restyles u v) (c : Classifier) :
    c.classify u = c.classify v := by
  -- a letter and an apostrophe keep their plain form; white space outside is trimmed
  cases h with
  | letter before after hcase =>
    exact classify_replaced (congrArg straight hcase) c before after
  | apostrophe before after hx hy =>
    exact classify_replaced
      ((plain_of_isApostrophe hx).trans (plain_of_isApostrophe hy).symm) c before after
  | front _ hblank =>
    refine (c.classify_congr (Terms.of_cons_blank hblank u) (fun kind => ?_) ?_).symm
    · exact Slots.fill_cons_blank hblank kind u
    · rw [normalize, trim_cons_blank hblank, ← normalize]
  | back _ hblank =>
    refine (c.classify_congr (Terms.of_append_blank hblank u) (fun kind => ?_) ?_).symm
    · exact Slots.fill_append_blank hblank kind u
    · rw [normalize, trim_append_blank hblank, ← normalize]

/-- **Style makes no difference**: utterances that differ in the case of basic Latin letters, in the
    form of their apostrophes and in the white space at their ends only are classified alike by
    every classifier, with the same intent, the same values and the same confidence. -/
theorem classify_restyled {u v : List Char} (h : Restyled u v) (c : Classifier) :
    c.classify u = c.classify v := by
  induction h with
  | rel _ _ hone => exact classify_restyles hone c
  | refl _ => rfl
  | symm _ _ _ ih => exact ih.symm
  | trans _ _ _ _ _ ihfirst ihsecond => exact ihfirst.trans ihsecond

/-- A question in other letters, with another apostrophe and a space in front. -/
theorem classify_restyled_question :
    Restyled "What's the tempo".toList " what\u2019s the tempo".toList ∧
      (standard 0.45).classify "What's the tempo".toList =
        (standard 0.45).classify " what\u2019s the tempo".toList := by
  have hcase : Restyles "What's the tempo".toList "what's the tempo".toList :=
    .letter [] "hat's the tempo".toList (c := 'W') (d := 'w') (by decide)
  have hmark : Restyles "what's the tempo".toList "what\u2019s the tempo".toList :=
    .apostrophe "what".toList "s the tempo".toList (c := '\'') (d := '\u2019')
      (by decide) (by decide)
  have hfront : Restyles "what\u2019s the tempo".toList " what\u2019s the tempo".toList :=
    .front "what\u2019s the tempo".toList (c := ' ') (by decide)
  have h : Restyled "What's the tempo".toList " what\u2019s the tempo".toList :=
    .trans _ _ _ (.rel _ _ hcase) (.trans _ _ _ (.rel _ _ hmark) (.rel _ _ hfront))
  exact ⟨h, classify_restyled h _⟩

end Classifier

end Rehearsal
