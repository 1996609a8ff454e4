import Rehearsal.Proofs.Pattern.Stretches
import Rehearsal.Proofs.Text.Blocks

/-! # Searching a text block by block

  A finder whose values only ever stand at the beginning of a word, or behind one that it begins
  with, need not be asked at every place of a text. It reads the same if the text is cut into
  blocks and it is asked once for each word, about the blocks from that word on.

  Main statement: `find?_eq_findSome?_tails`.
-/

namespace Rehearsal

open Text

namespace Place

variable {w before after : List Char} {b : Option Char}

theorem isBoundary_before_word (h : Word w) :
    isBoundary b (w ++ after).head? = true ↔ ∀ c ∈ b, isWord c = false := by
  obtain ⟨d, hd, hword⟩ := h.isWord_head after
  rw [Option.mem_def.1 hd]
  cases b <;> simp [isBoundary, hword]

theorem isBoundary_behind_word (h : Word w) :
    isBoundary (before ++ w).getLast? b = true ↔ ∀ c ∈ b, isWord c = false := by
  obtain ⟨d, hd, hword⟩ := h.isWord_last before
  rw [Option.mem_def.1 hd]
  cases b <;> simp [isBoundary, hword]

end Place

namespace Finder

open Pattern

variable {f : Finder} {read : List (List Char) → Option (List Char)}
  {before front rest : List Char} {bs : List (List Char)}

/-- The finder reads at the beginning of words only, and there it reads what the blocks from the
    word on have to offer. -/
structure ReadsWords (f : Finder) (read : List (List Char) → Option (List Char)) : Prop where
  outside : ∀ {before rest value}, f.ReadsAt before rest value →
    ∀ c ∈ before.getLast?, isWord c = false
  begins : ∀ {before rest value}, f.ReadsAt before rest value → ∃ c ∈ rest.head?, isWord c = true
  /-- From a word on, it reads what the blocks offer. -/
  atWord : ∀ {before bs}, (∀ c ∈ before.getLast?, isWord c = false) → Blocked true bs →
    ∀ value, f.ReadsAt before bs.flatten value ↔ read bs = some value
  /-- Only blocks with a word in front offer something. -/
  offers : ∀ {bs value}, read bs = some value → ∃ w back, bs = w :: back ∧ Word w

theorem ReadsWords.elsewhere (h : f.ReadsWords read) (hbs : Blocked false bs) : read bs = none := by
  rw [Option.eq_none_iff_forall_ne_some]
  intro value hvalue
  obtain ⟨w, back, rfl, hw⟩ := h.offers hvalue
  exact Blocked.not_of_word hw hbs

theorem valueAt_eq_none (h : ∀ value, ¬ f.ReadsAt before rest value) :
    f.valueAt (placeAfter before rest) = none := by
  refine valueAt_eq_of_readsAt fun value => ?_
  constructor
  · exact fun hreads => absurd hreads (h value)
  · exact fun hnone => nomatch hnone

/-- What holds nothing to be found is passed over. -/
theorem findSome?_onward_append (rest : List Char)
    (h : ∀ x y, front = x ++ y → y ≠ [] → f.valueAt (placeAfter (before ++ x) (y ++ rest)) = none) :
    (Place.onward before.getLast? (front ++ rest)).findSome? f.valueAt =
      (Place.onward (before ++ front).getLast? rest).findSome? f.valueAt := by
  induction front generalizing before with
  | nil => rw [List.append_nil, List.nil_append]
  | cons c front ih =>
    have hfirst : f.valueAt ⟨before.getLast?, c :: (front ++ rest)⟩ = none := by
      have hnone := h [] (c :: front) rfl (List.cons_ne_nil c front)
      rwa [List.append_nil] at hnone
    have hlast : (before ++ [c]).getLast? = some c := List.getLast?_concat
    -- the same for the places behind `c`
    have hlater : (Place.onward (before ++ [c]).getLast? (front ++ rest)).findSome? f.valueAt =
        (Place.onward (before ++ [c] ++ front).getLast? rest).findSome? f.valueAt := by
      refine ih fun x y hsplit hy => ?_
      rw [List.append_assoc]
      exact h (c :: x) y (congrArg (c :: ·) hsplit) hy
    rw [List.cons_append, Place.onward, List.findSome?_cons, hfirst, ← hlast, hlater,
      List.append_assoc, List.singleton_append]

/-- What is found is what is read from the first place where anything is. -/
theorem find?_append_eq_some {value : List Char}
    (hfront : ∀ x y, front = x ++ y → y ≠ [] → ∀ value, ¬ f.ReadsAt x (y ++ rest) value)
    (hvalue : f.valueAt (placeAfter front rest) = some value) :
    f.find? (front ++ rest) = some value := by
  have hnone : ∀ x y, front = x ++ y → y ≠ [] →
      f.valueAt (placeAfter ([] ++ x) (y ++ rest)) = none := by
    intro x y hsplit hy
    exact valueAt_eq_none (hfront x y hsplit hy)
  have hpass := findSome?_onward_append rest hnone
  obtain ⟨ps, hps⟩ : ∃ ps, Place.onward front.getLast? rest = placeAfter front rest :: ps := by
    cases rest with
    | nil => exact ⟨_, rfl⟩
    | cons c rest => exact ⟨_, rfl⟩
  rwa [List.nil_append, hps, List.findSome?_cons, hvalue] at hpass

theorem find?_eq_none {text : List Char}
    (h : ∀ x y, text = x ++ y → ∀ value, ¬ f.ReadsAt x y value) : f.find? text = none := by
  rw [find?, List.findSome?_eq_none_iff]
  intro p hp
  obtain ⟨x, y, hsplit, rfl⟩ := (mem_onward [] text p).1 hp
  exact valueAt_eq_none (h x y hsplit)

theorem ReadsWords.pass_between (h : f.ReadsWords read) (hfront : ∀ c ∈ front, isWord c = false)
    (rest : List Char) : (Place.onward before.getLast? (front ++ rest)).findSome? f.valueAt =
      (Place.onward (before ++ front).getLast? rest).findSome? f.valueAt := by
  refine findSome?_onward_append rest fun x y hsplit hy => valueAt_eq_none fun value hreads => ?_
  obtain ⟨c, y, rfl⟩ := List.exists_cons_of_ne_nil hy
  obtain ⟨d, hd, hword⟩ := h.begins hreads
  obtain rfl : c = d := Option.some.inj hd
  have hmem : c ∈ front := hsplit ▸ List.mem_append_right x List.mem_cons_self
  rw [hfront c hmem] at hword
  cases hword

/-- Inside of a word nothing is found. -/
theorem ReadsWords.pass_word (h : f.ReadsWords read) (before : List Char) {c : Char}
    (hword : Word (c :: front)) (rest : List Char) :
    (Place.onward (some c) (front ++ rest)).findSome? f.valueAt =
      (Place.onward (before ++ c :: front).getLast? rest).findSome? f.valueAt := by
  have hlast : (before ++ [c]).getLast? = some c := List.getLast?_concat
  rw [← hlast, ← List.singleton_append (l := front), ← List.append_assoc]
  refine findSome?_onward_append rest fun x y hsplit hy => valueAt_eq_none fun value hreads => ?_
  -- the place is behind the part of the word that has been read
  have hread : Word (c :: x) := by
    refine ⟨List.cons_ne_nil c x, fun d hd => hword.isWord d ?_⟩
    rw [hsplit]
    exact List.mem_append_left y hd
  obtain ⟨d, hd, hword⟩ := hread.isWord_last before
  have hend := h.outside hreads
  rw [List.append_assoc] at hend
  rw [hend d hd] at hword
  cases hword

/-- The search passes over what is between words and asks once for each word. -/
theorem ReadsWords.findSome?_blocks (h : f.ReadsWords read) {word : Bool} (hbs : Blocked word bs)
    (hbefore : word = true → ∀ c ∈ before.getLast?, isWord c = false) :
    (Place.onward before.getLast? bs.flatten).findSome? f.valueAt = bs.tails.findSome? read := by
  induction hbs generalizing before with
  | nil =>
    have hnone : f.valueAt (placeAfter before []) = none := by
      refine valueAt_eq_none fun value hreads => ?_
      obtain ⟨c, hc, -⟩ := h.begins hreads
      cases hc
    rw [List.flatten_nil, Place.onward, List.findSome?_singleton, List.tails,
      List.findSome?_singleton, h.elsewhere .nil]
    exact hnone
  | @cons word b bs hne hb hback ih =>
    rw [List.flatten_cons, List.tails, List.findSome?_cons]
    have hlast : ∀ c ∈ (before ++ b).getLast?, isWord c = word := by
      rw [List.getLast?_append_of_ne_nil before hne]
      exact fun c hc => hb c (List.mem_of_mem_getLast? hc)
    cases word with
    -- nothing begins between words
    | false =>
      rw [h.elsewhere (.cons hne hb hback), h.pass_between hb, ih fun _ => hlast]
    -- within a word only its first place counts
    | true =>
      obtain ⟨c, cs, rfl⟩ := List.exists_cons_of_ne_nil hne
      have hread : f.valueAt ⟨before.getLast?, c :: (cs ++ bs.flatten)⟩ = read ((c :: cs) :: bs) :=
        valueAt_eq_of_readsAt (h.atWord (hbefore rfl) (.cons hne hb hback))
      rw [List.cons_append, Place.onward, List.findSome?_cons, hread,
        h.pass_word before ⟨hne, hb⟩, ih fun hword => absurd hword Bool.false_ne_true]

/-- **A text is searched block by block**: what is found is the first that the blocks offer from
    some block on. -/
theorem ReadsWords.find?_eq_findSome?_tails (h : f.ReadsWords read) (text : List Char) :
    f.find? text = (blocks text).tails.findSome? read := by
  have hkind : ∀ c ∈ text.head?, isWord c = text.head?.any isWord := by
    intro c hc
    rw [Option.mem_def.1 hc]
    rfl
  have hfront : ∀ c ∈ ([] : List Char).getLast?, isWord c = false :=
    fun c hc => absurd hc (Option.not_mem_none c)
  have hsearch := h.findSome?_blocks (blocked_blocks hkind) fun _ => hfront
  rwa [flatten_blocks] at hsearch

end Finder

end Rehearsal
