import Rehearsal.Proofs.Recognition.Shapes
import Rehearsal.Proofs.Recognition.Vocabulary
import Rehearsal.Proofs.Text.Pieces

/-! # What a prediction depends on

  A phrase holds as terms its words of two and more characters, in lower case, and the pairs of such
  words that are neighbours (`Terms.Holds`). The model knows the terms that the training phrases
  hold.

  A phrase without a known term has an empty vector, and nothing is predicted for it. Any other
  phrase has a prediction: there is a sample, so there is a kind, and each kind has a probability.
  The vector is made from how often the phrase holds each known term, so neither the other terms nor
  the order of the terms has a part in the prediction.

  Main statement: `predicts_by_known_terms`.
-/

namespace Rehearsal

open Text

/-! ## The terms of a phrase -/

namespace Terms

variable {phrase term w : List Char} {ws : List (List Char)}

/-- A phrase holds a term. -/
inductive Holds (phrase : List Char) : List Char → Prop where
  /-- A word of at least two characters: a longest stretch of the phrase in lower case without a
      character that parts words. -/
  | word {w : List Char} : 2 ≤ w.length → IsStretch isSeparator w (lowercase phrase) →
      Holds phrase w
  | pair {a b : List Char} : [a, b] <:+: wordsOf phrase → Holds phrase (a ++ ' ' :: b)

theorem mem_wordsOf : w ∈ wordsOf phrase ↔
    2 ≤ w.length ∧ IsStretch isSeparator w (lowercase phrase) := by
  rw [wordsOf, List.mem_filter, mem_pieces_iff, decide_eq_true_eq, and_comm]

/-- The pairs are those of neighbours. -/
theorem mem_pairs : term ∈ pairs ws ↔ ∃ a b, [a, b] <:+: ws ∧ term = a ++ ' ' :: b := by
  induction ws with
  | nil => simp [pairs]
  | cons a ws ih =>
    cases ws with
    | nil =>
      have hnone : ∀ b c, ¬ [b, c] <:+: [a] := fun b c h => by simpa using h.length_le
      simp [pairs, hnone]
    | cons b ws =>
      have hpairs : pairs (a :: b :: ws) = (a ++ ' ' :: b) :: pairs (b :: ws) := rfl
      -- two neighbours are the first two words, or they stand further on
      have hnext : ∀ c d, [c, d] <:+: a :: b :: ws ↔ (c = a ∧ d = b) ∨ [c, d] <:+: b :: ws := by
        intro c d
        rw [List.infix_cons_iff]
        simp
      rw [hpairs, List.mem_cons, ih]
      simp only [hnext]
      grind

theorem mem_of : term ∈ of phrase ↔ Holds phrase term := by
  rw [of, List.mem_append, mem_wordsOf, mem_pairs]
  constructor
  · rintro (⟨hlength, hstretch⟩ | ⟨a, b, hnext, rfl⟩)
    · exact .word hlength hstretch
    · exact .pair hnext
  · rintro (⟨hlength, hstretch⟩ | hnext)
    · exact .inl ⟨hlength, hstretch⟩
    · exact .inr ⟨_, _, hnext, rfl⟩

end Terms

/-! ## Vectors -/

namespace Features

variable {f : Features} {u v : List Char}

theorem vector_congr (h : f.columns u = f.columns v) : f.vector u = f.vector v := by
  unfold vector counts
  rw [h]

end Features

/-! ## The most probable kind -/

namespace Model

variable {α : Type} {samples : List Sample} {u v phrase : List Char}

theorem mostProbable_mem {pairs : List (α × Float)} {best : α × Float}
    (h : mostProbable pairs = some best) : best ∈ pairs := by
  cases pairs with
  | nil => cases h
  | cons first rest =>
    -- for any best pair so far, since it changes on the way
    have hbest : ∀ (best : α × Float) (rest : List (α × Float)),
        rest.foldl (fun best p => if best.2 ≤ p.2 then p else best) best ∈ best :: rest := by
      intro best rest
      induction rest generalizing best with
      | nil => simp
      | cons p rest ih =>
        rw [List.foldl_cons]
        split
        · exact List.mem_cons_of_mem _ (ih p)
        · refine List.mem_cons.2 ((List.mem_cons.1 (ih best)).imp_right ?_)
          exact List.mem_cons_of_mem p
    cases h
    exact hbest first rest

theorem mostProbable_eq_none_iff {pairs : List (α × Float)} :
    mostProbable pairs = none ↔ pairs = [] := by
  cases pairs with
  | nil => simp [mostProbable]
  | cons first rest => simp [mostProbable]

theorem mem_classesOf {kind : Kind} : kind ∈ classesOf samples ↔ ∃ s ∈ samples, s.kind = kind := by
  rw [classesOf, mem_distinct, List.mem_map]

theorem size_probabilities_train (samples : List Sample) (x : FeatureVector) :
    ((train samples).parameters.probabilities x).size = (train samples).classes.length :=
  (shaped_descent _ _ _ _).size_probabilities x

def isKnown (samples : List Sample) (term : List Char) : Bool :=
  samples.any fun s => (Terms.of s.phrase).contains term

theorem column?_train_eq_none_iff {term : List Char} :
    (train samples).features.column? term = none ↔ ∀ s ∈ samples, term ∉ Terms.of s.phrase := by
  unfold train
  rw [Features.column?_eq_none_iff, List.forall_mem_map]

theorem filterMap_column?_filter (samples : List Sample) (terms : List (List Char)) :
    (terms.filter (isKnown samples)).filterMap (train samples).features.column? =
      terms.filterMap (train samples).features.column? := by
  rw [List.filterMap_filter]
  refine List.filterMap_congr fun term _ => ?_
  split
  · rfl
  · rename_i hunknown
    symm
    rw [column?_train_eq_none_iff]
    simpa [isKnown] using hunknown

/-- Without a kind there is no sample, and so no term with a column. -/
theorem vector_of_no_classes (h : classesOf samples = []) (phrase : List Char) :
    (train samples).features.vector phrase = [] := by
  rw [Features.vector_eq_nil_iff]
  intro term _
  rw [column?_train_eq_none_iff]
  intro s hs
  have hkind : s.kind ∈ classesOf samples := mem_classesOf.2 ⟨s, hs, rfl⟩
  rw [h] at hkind
  cases hkind

/-- Nothing is predicted exactly for a phrase with an empty vector. -/
theorem predict_eq_none_iff :
    (train samples).predict phrase = none ↔ (train samples).features.vector phrase = [] := by
  unfold predict
  split
  · simp [*]
  · rename_i x hx
    rw [mostProbable_eq_none_iff]
    refine ⟨fun h => ?_, fun h => absurd h hx⟩
    -- there are as many probabilities as kinds, so there is no kind
    have hlength := congrArg List.length h
    rw [List.length_zip, Array.length_toList, size_probabilities_train, Nat.min_self] at hlength
    exact vector_of_no_classes (List.eq_nil_of_length_eq_zero hlength) phrase

/-- **Predictions follow the known terms**: nothing is predicted for a phrase exactly if it holds no
    term that a training phrase holds. The kind that is predicted is that of a sample. Two phrases
    that hold the same known terms, each as often, have the same prediction, in whatever order the
    terms stand and whatever other terms there are. -/
theorem predicts_by_known_terms (samples : List Sample) :
    (∀ phrase, (train samples).predict phrase = none ↔
      ∀ term, Terms.Holds phrase term → ∀ s ∈ samples, ¬ Terms.Holds s.phrase term) ∧
    (∀ phrase kind p, (train samples).predict phrase = some (kind, p) →
      ∃ s ∈ samples, s.kind = kind) ∧
    ∀ u v : List Char,
      ((Terms.of u).filter (isKnown samples)).Perm ((Terms.of v).filter (isKnown samples)) →
        (train samples).predict u = (train samples).predict v := by
  refine ⟨?_, ?_, ?_⟩
  · intro phrase
    rw [predict_eq_none_iff, Features.vector_eq_nil_iff]
    simp only [column?_train_eq_none_iff, Terms.mem_of]
  · intro phrase kind p h
    unfold predict at h
    split at h
    · cases h
    · exact mem_classesOf.1 (List.of_mem_zip (mostProbable_mem h)).1
  · intro u v h
    -- terms that are not known have no column, and the columns are only counted
    have hcolumns : (train samples).features.columns u = (train samples).features.columns v := by
      unfold Features.columns
      rw [← filterMap_column?_filter, ← filterMap_column?_filter samples (Terms.of v)]
      exact Tally.of_perm (h.filterMap _)
    unfold predict
    rw [Features.vector_congr hcolumns]

/-- Two commands in one utterance, with and without a word that is not known. -/
theorem predicts_by_known_terms_other_order :
    (train [⟨"next page".toList, .nextPage⟩, ⟨"stop".toList, .stopMetronome⟩]).predict
        "stop, page please next".toList =
      (train [⟨"next page".toList, .nextPage⟩, ⟨"stop".toList, .stopMetronome⟩]).predict
        "page stop next".toList := by
  refine (predicts_by_known_terms _).2.2 _ _ ?_
  decide +kernel

end Model

end Rehearsal
