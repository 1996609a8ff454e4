import Mathlib.Data.List.Lex
import Rehearsal.Proofs.Recognition.Counting
import Rehearsal.Recognition.Model

/-! # The vocabulary of some phrases

  Fitting counts, phrase by phrase, how many phrases hold each term; a phrase counts once for a term
  however often it repeats it (`held_counts`). The terms in their order are the columns, and the
  weight of a column comes from its count alone.

  So nothing in the features depends on the order of the phrases.

  Main statement: `fitting_ignores_order`.
-/

namespace Rehearsal

/-! ## Order of terms and kinds -/

instance termOrder : IsStrictTotalOrder (List Char) (· < ·) where
  irrefl := List.lt_irrefl
  trans _ _ _ := List.lt_trans
  trichotomous _ _ h h' := List.le_antisymm (List.not_lt.1 h') (List.not_lt.1 h)

theorem Kind.place_injective {k l : Kind} (h : k.place = l.place) : k = l := by
  revert h
  cases k
  all_goals cases l
  all_goals decide

instance kindOrder : IsStrictTotalOrder Kind (· < ·) where
  irrefl k := Nat.lt_irrefl k.place
  trans _ _ _ := Nat.lt_trans
  trichotomous _ _ h h' :=
    Kind.place_injective (Nat.le_antisymm (Nat.not_lt.1 h') (Nat.not_lt.1 h))

/-! ## Look-up in a list of pairs -/

/-- A key that stands in one pair only is looked up in that pair. -/
theorem lookup_eq_some_iff_mem {α β : Type} [BEq α] [LawfulBEq α] {pairs : List (α × β)}
    {x : α} {y : β}
    (h : (pairs.map (·.1)).Nodup) : pairs.lookup x = some y ↔ (x, y) ∈ pairs := by
  induction pairs with
  | nil => simp
  | cons pair rest ih =>
    rw [List.map_cons, List.nodup_cons] at h
    by_cases hx : x = pair.1
    · subst hx
      -- the key stands here only
      have hrest : (pair.1, y) ∉ rest := fun hmem => h.1 (List.mem_map.2 ⟨_, hmem, rfl⟩)
      rw [List.lookup_cons_self, List.mem_cons]
      simp [hrest, Prod.ext_iff, eq_comm]
    · have hfalse : (x == pair.1) = false := beq_false_of_ne hx
      rw [List.lookup_cons, hfalse, List.mem_cons, ← ih h.2]
      simp [hx, Prod.ext_iff]

namespace Features

variable {phrases others : List (List Char)} {term phrase : List Char} {column n : Nat}
  {f : Features}

/-! ## How many phrases hold a term -/

def phrasesWith (term : List Char) (phrases : List (List Char)) : Nat :=
  phrases.countP fun phrase => decide (term ∈ Terms.of phrase)

theorem phrasesWith_cons (term phrase : List Char) (phrases : List (List Char)) :
    phrasesWith term (phrase :: phrases) =
      (if term ∈ Terms.of phrase then 1 else 0) + phrasesWith term phrases := by
  unfold phrasesWith
  rw [List.countP_cons, Nat.add_comm]
  simp only [decide_eq_true_eq]

/-- A phrase that repeats a term counts once. -/
theorem held_counts (phrases : List (List Char)) :
    (held phrases).Counts fun term => phrasesWith term phrases := by
  -- the tally that a phrase is added to is any one, for the induction over the phrases
  have hfrom : ∀ (t : Tally (List Char)) (g : List Char → Nat), t.Counts g →
      Tally.Counts (phrases.foldl (fun t phrase => t.addAll (distinct (Terms.of phrase))) t)
        fun term => g term + phrasesWith term phrases := by
    induction phrases with
    | nil => exact fun t g h => h
    | cons phrase phrases ih =>
      intro t g h
      refine (ih _ _ (h.addAll (distinct (Terms.of phrase)))).congr fun term => ?_
      rw [count_distinct, phrasesWith_cons, Nat.add_assoc]
      congr 2
      split_ifs <;> rfl
  exact (hfrom [] _ Tally.counts_nil).congr fun term => Nat.zero_add _

theorem phrasesWith_perm (h : phrases.Perm others) (term : List Char) :
    phrasesWith term phrases = phrasesWith term others := h.countP_eq _

theorem held_perm (h : phrases.Perm others) : held phrases = held others :=
  (held_counts phrases).unique <|
    (held_counts others).congr fun term => (phrasesWith_perm h term).symm

/-! ## Columns -/

theorem mem_things_held :
    term ∈ (held phrases).things ↔ ∃ phrase ∈ phrases, term ∈ Terms.of phrase := by
  rw [(held_counts phrases).mem_things]
  simp [phrasesWith, List.countP_pos_iff]

theorem vocabulary_ofPhrases (phrases : List (List Char)) :
    (ofPhrases phrases).vocabulary = (held phrases).things.zipIdx := rfl

theorem size_ofPhrases (phrases : List (List Char)) :
    (ofPhrases phrases).size = (ofPhrases phrases).vocabulary.length := by
  simp [size, ofPhrases, Tally.things]

theorem column?_ofPhrases : (ofPhrases phrases).column? term = some column ↔
    (held phrases).things[column]? = some term := by
  unfold column?
  rw [vocabulary_ofPhrases, lookup_eq_some_iff_mem, List.mem_zipIdx_iff_getElem?]
  rw [List.zipIdx_map_fst]
  exact (held_counts phrases).nodup

theorem held_getElem? : (held phrases)[column]? = some (term, n) ↔
    (ofPhrases phrases).column? term = some column ∧ n = phrasesWith term phrases := by
  have hthings : (held phrases).things[column]? = (held phrases)[column]?.map (·.1) :=
    List.getElem?_map
  rw [column?_ofPhrases, hthings, Option.map_eq_some_iff]
  constructor
  · intro h
    exact ⟨⟨_, h, rfl⟩, ((held_counts phrases).mem_iff.1 (List.mem_of_getElem? h)).1⟩
  · rintro ⟨⟨⟨_, m⟩, h, rfl⟩, rfl⟩
    rw [h, ((held_counts phrases).mem_iff.1 (List.mem_of_getElem? h)).1]

theorem column?_lt (h : (ofPhrases phrases).column? term = some column) :
    column < (ofPhrases phrases).size := by
  rw [column?_ofPhrases] at h
  rw [size_ofPhrases, vocabulary_ofPhrases, List.length_zipIdx]
  exact (List.getElem?_eq_some_iff.1 h).1

/-- The weight of a column comes from how many phrases hold its term. -/
theorem weights_ofPhrases (h : (ofPhrases phrases).column? term = some column) :
    (ofPhrases phrases).weights[column]? =
      some (weight phrases.length (phrasesWith term phrases)) := by
  unfold ofPhrases
  dsimp only
  rw [List.getElem?_toArray, List.getElem?_map, held_getElem?.2 ⟨h, rfl⟩]
  rfl

theorem column?_eq_none_iff : (ofPhrases phrases).column? term = none ↔
    ∀ phrase ∈ phrases, term ∉ Terms.of phrase := by
  have hsome : (∃ column, (ofPhrases phrases).column? term = some column) ↔
      ∃ phrase ∈ phrases, term ∈ Terms.of phrase := by
    rw [← mem_things_held, List.mem_iff_getElem?]
    simp only [column?_ofPhrases]
  rw [Option.eq_none_iff_forall_ne_some, ← not_exists, hsome]
  simp

theorem ofPhrases_perm (h : phrases.Perm others) : ofPhrases phrases = ofPhrases others := by
  unfold ofPhrases
  rw [held_perm h, h.length_eq]

/-! ## Vectors -/

theorem unit_columns (x : FeatureVector) : x.unit.map (·.1) = x.map (·.1) := by
  unfold FeatureVector.unit
  dsimp only
  split <;> simp

theorem vector_columns (f : Features) (phrase : List Char) :
    (f.vector phrase).map (·.1) = (f.columns phrase).things := by
  unfold vector
  rw [unit_columns, counts, List.map_map]
  rfl

theorem vector_increasing (f : Features) (phrase : List Char) :
    ((f.vector phrase).map (·.1)).Pairwise (· < ·) := by
  rw [vector_columns]
  exact (Tally.counts_of _).increasing

theorem mem_vector_columns : column ∈ (f.vector phrase).map (·.1) ↔
    ∃ term ∈ Terms.of phrase, f.column? term = some column := by
  rw [vector_columns]
  exact mem_distinct.trans List.mem_filterMap

theorem vector_eq_nil_iff :
    f.vector phrase = [] ↔ ∀ term ∈ Terms.of phrase, f.column? term = none := by
  rw [← List.map_eq_nil_iff (f := (·.1)), List.eq_nil_iff_forall_not_mem]
  simp only [mem_vector_columns, not_exists, not_and, Option.eq_none_iff_forall_ne_some]
  exact ⟨fun h term hterm column => h column term hterm,
    fun h column term hterm => h term hterm column⟩

end Features

/-! ## Order of the samples -/

namespace Model

variable {samples others : List Sample}

theorem classesOf_perm (h : others.Perm samples) : classesOf others = classesOf samples :=
  distinct_perm (h.map _)

theorem features_perm (h : others.Perm samples) :
    (train others).features = (train samples).features := Features.ofPhrases_perm (h.map _)

theorem phrasesWith_map (term : List Char) (samples : List Sample) :
    Features.phrasesWith term (samples.map (·.phrase)) =
      samples.countP fun s => decide (term ∈ Terms.of s.phrase) := List.countP_map

/-- **Fitting ignores the order of the samples**: the same samples in another order give every term
    the same column, every column the same weight, the same kinds, and every text the same vector.
    What is counted for a column, and gives its weight, is how many of the phrases hold the term,
    however often each of them does. -/
theorem fitting_ignores_order (samples : List Sample) :
    (∀ others : List Sample, others.Perm samples →
      (train others).features.vocabulary = (train samples).features.vocabulary ∧
      (train others).features.weights = (train samples).features.weights ∧
      (train others).classes = (train samples).classes ∧
      ∀ text, (train others).features.vector text = (train samples).features.vector text) ∧
    ∀ term column, (train samples).features.column? term = some column →
      (Features.held (samples.map (·.phrase)))[column]? =
          some (term, samples.countP fun s => decide (term ∈ Terms.of s.phrase)) ∧
        (train samples).features.weights[column]? = some (Features.weight samples.length
          (samples.countP fun s => decide (term ∈ Terms.of s.phrase))) := by
  constructor
  · intro others h
    -- everything that is fitted comes from the features and the classes
    have hfeatures := features_perm h
    exact ⟨congrArg _ hfeatures, congrArg _ hfeatures, classesOf_perm h,
      fun text => congrArg (·.vector text) hfeatures⟩
  · intro term column h
    rw [← phrasesWith_map]
    refine ⟨Features.held_getElem?.2 ⟨h, rfl⟩, ?_⟩
    have hweight := Features.weights_ofPhrases h
    rw [List.length_map] at hweight
    exact hweight

/-- A word that one of two phrases repeats counts twice in all. -/
theorem fitting_ignores_order_repeated_word :
    (train [⟨"page page turn".toList, .nextPage⟩,
        ⟨"next page".toList, .nextPage⟩]).features.weights =
      (train [⟨"next page".toList, .nextPage⟩,
        ⟨"page page turn".toList, .nextPage⟩]).features.weights ∧
    (train [⟨"next page".toList, .nextPage⟩,
        ⟨"page page turn".toList, .nextPage⟩]).features.weights[2]? =
      some (Features.weight 2 2) := by
  obtain ⟨horder, hcount⟩ := fitting_ignores_order
    [⟨"next page".toList, .nextPage⟩, ⟨"page page turn".toList, .nextPage⟩]
  refine ⟨(horder _ (List.Perm.swap _ _ _)).2.1, ?_⟩
  exact (hcount "page".toList 2 (by decide +kernel)).2

end Model

end Rehearsal
