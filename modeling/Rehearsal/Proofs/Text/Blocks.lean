import Mathlib.Data.List.SplitBy
import Mathlib.Data.List.TakeWhile
import Rehearsal.Text.CharClass

/-! # Cutting a text into words and what is between them

  `blocks` cuts a text into its longest stretches of word characters and its longest stretches of
  other characters. The two kinds alternate (`blocked_blocks`), so a block is a word of the text
  with all of its characters, or all that stands between two words.

  Main statements: `flatten_blocks`, `blocked_blocks`, `blocks_append`, `Blocked.eq_cons`.
-/

namespace Rehearsal.Text

/-- The longest stretches of a text that hold word characters only, or no word character. -/
def blocks (text : List Char) : List (List Char) := text.splitBy fun c d => isWord c == isWord d

/-- A word: characters of words only, and at least one. -/
structure Word (w : List Char) : Prop where
  ne_nil : w ≠ []
  isWord : ∀ c ∈ w, isWord c = true

/-- Blocks that alternate, none of them empty: the first one holds word characters only, or none,
    as told. -/
inductive Blocked : Bool → List (List Char) → Prop where
  | nil {word : Bool} : Blocked word []
  /-- A block of one kind in front of blocks of the other kind. -/
  | cons {word : Bool} {b : List Char} {bs : List (List Char)} :
      b ≠ [] → (∀ c ∈ b, isWord c = word) → Blocked (!word) bs → Blocked word (b :: bs)

variable {text b m w rest : List Char} {word : Bool} {bs : List (List Char)}

namespace Word

theorem isWord_head (h : Word w) (rest : List Char) :
    ∃ c ∈ (w ++ rest).head?, Text.isWord c = true := by
  obtain ⟨c, w, rfl⟩ := List.exists_cons_of_ne_nil h.ne_nil
  exact ⟨c, rfl, h.isWord c List.mem_cons_self⟩

theorem isWord_last (h : Word w) (text : List Char) :
    ∃ c ∈ (text ++ w).getLast?, Text.isWord c = true := by
  rw [List.getLast?_append_of_ne_nil text h.ne_nil, List.getLast?_eq_some_getLast h.ne_nil]
  exact ⟨_, rfl, h.isWord _ (List.getLast_mem h.ne_nil)⟩

end Word

/-- Nothing is lost. -/
theorem flatten_blocks (text : List Char) : (blocks text).flatten = text :=
  List.flatten_splitBy _ text

/-- A word does not go on across a place where no word does. -/
theorem blocks_append {front back : List Char}
    (h : ∀ c ∈ front.getLast?, ∀ d ∈ back.head?, isWord c ≠ isWord d) :
    blocks (front ++ back) = blocks front ++ blocks back := by
  refine List.splitBy_append ?_
  intro c hc d hd
  exact beq_eq_false_iff_ne.2 (h c hc d hd)

theorem blocks_of_uniform (hne : b ≠ []) (h : ∀ c ∈ b, isWord c = word) : blocks b = [b] := by
  refine List.splitBy_of_isChain hne (List.Pairwise.isChain ?_)
  refine List.pairwise_of_forall_mem_list ?_
  intro c hc d hd
  rw [h c hc, h d hd]
  exact beq_self_eq_true word

/-- A word that does not go on on either side is one block. -/
theorem blocks_around_word {front back : List Char} (h : Word w)
    (hfront : ∀ c ∈ front.getLast?, isWord c = false)
    (hback : ∀ c ∈ back.head?, isWord c = false) :
    blocks (front ++ (w ++ back)) = blocks front ++ w :: blocks back := by
  have hleft : blocks (front ++ (w ++ back)) = blocks front ++ blocks (w ++ back) := by
    refine blocks_append fun c hc d hd => ?_
    rw [List.head?_append_of_ne_nil w h.ne_nil] at hd
    rw [hfront c hc, h.isWord d (List.mem_of_mem_head? hd)]
    exact Bool.false_ne_true
  have hright : blocks (w ++ back) = blocks w ++ blocks back := by
    refine blocks_append fun c hc d hd => ?_
    rw [h.isWord c (List.mem_of_mem_getLast? hc), hback d hd]
    exact Bool.false_ne_true.symm
  rw [hleft, hright, blocks_of_uniform h.ne_nil h.isWord, List.singleton_append]

/-- **Blocks alternate**, and the first character tells which kind the first block is of. -/
theorem blocked_blocks (h : ∀ c ∈ text.head?, isWord c = word) : Blocked word (blocks text) := by
  -- by induction on the length: the first block goes as far as its kind of characters does
  induction hlength : text.length using Nat.strongRecOn generalizing text word with
  | ind n ih =>
    cases text with
    | nil => exact .nil
    | cons c rest =>
      have hc : isWord c = word := h c rfl
      let front := (c :: rest).takeWhile fun d => isWord d == word
      let back := (c :: rest).dropWhile fun d => isWord d == word
      have hsplit : c :: rest = front ++ back := List.takeWhile_append_dropWhile.symm
      have hne : front ≠ [] := by
        simp [front, hc]
      have hfront : ∀ d ∈ front, isWord d = word := by
        intro d hd
        have hkind : (isWord d == word) = true :=
          List.mem_takeWhile_imp (p := fun d => isWord d == word) hd
        exact beq_iff_eq.1 hkind
      have hback : ∀ d ∈ back.head?, isWord d = !word := by
        intro d hd
        have hstop := List.head?_dropWhile_not (fun d => isWord d == word) (c :: rest)
        rw [show (List.dropWhile _ (c :: rest)).head? = some d from hd] at hstop
        rw [Bool.eq_not]
        exact beq_eq_false_iff_ne.1 hstop
      have hblocks : blocks (c :: rest) = front :: blocks back := by
        rw [hsplit, blocks_append, blocks_of_uniform hne hfront, List.singleton_append]
        intro d hd e he
        rw [hfront d (List.mem_of_mem_getLast? hd), hback e he]
        cases word <;> decide
      have hshorter : back.length < n := by
        have hlt : 0 < front.length := List.length_pos_iff.2 hne
        have := congrArg List.length hsplit
        rw [List.length_append] at this
        omega
      rw [hblocks]
      exact .cons hne hfront (ih back.length hshorter hback rfl)

namespace Blocked

theorem cons_iff : Blocked word (b :: bs) ↔
    b ≠ [] ∧ (∀ c ∈ b, isWord c = word) ∧ Blocked (!word) bs := by
  constructor
  · intro h
    cases h with
    | cons hne hb hbs => exact ⟨hne, hb, hbs⟩
  · exact fun ⟨hne, hb, hbs⟩ => .cons hne hb hbs

theorem isWord_head (h : Blocked word bs) : ∀ c ∈ bs.flatten.head?, isWord c = word := by
  cases h with
  | nil => exact fun c hc => absurd hc (Option.not_mem_none c)
  | @cons _ b bs hne hb =>
    intro c hc
    rw [List.flatten_cons, List.head?_append_of_ne_nil b hne] at hc
    exact hb c (List.mem_of_mem_head? hc)

theorem not_of_word (h : Word w) : ¬ Blocked false (w :: bs) := by
  intro hbs
  obtain ⟨c, hc, hword⟩ := h.isWord_head bs.flatten
  rw [hbs.isWord_head c hc] at hword
  cases hword

/-- A stretch of one kind in front that does not go on is the whole first block. -/
theorem eq_cons (h : Blocked word bs) (hm : m ≠ []) (hkind : ∀ c ∈ m, isWord c = word)
    (hstop : ∀ c ∈ rest.head?, isWord c = !word) (hsplit : bs.flatten = m ++ rest) :
    ∃ back, bs = m :: back ∧ rest = back.flatten ∧ Blocked (!word) back := by
  -- either is the longest stretch of the kind in front
  have hlongest : ∀ {x y : List Char}, (∀ c ∈ x, isWord c = word) →
      (∀ c ∈ y.head?, isWord c = !word) → (x ++ y).takeWhile (isWord · == word) = x := by
    intro x y hx hy
    rw [List.takeWhile_append_of_pos fun c hc => beq_iff_eq.2 (hx c hc)]
    cases y with
    | nil => exact x.append_nil
    | cons c y =>
      rw [List.takeWhile_cons_of_neg, List.append_nil]
      rw [hy c rfl]
      cases word <;> decide
  cases h with
  | nil => exact absurd (List.append_eq_nil_iff.1 hsplit.symm).1 hm
  | @cons _ b back hne hb hback =>
    rw [List.flatten_cons] at hsplit
    have hfirst : b = m := by
      rw [← hlongest hb hback.isWord_head, hsplit, hlongest hkind hstop]
    subst hfirst
    exact ⟨back, rfl, (List.append_cancel_left hsplit).symm, hback⟩

end Blocked

end Rehearsal.Text
