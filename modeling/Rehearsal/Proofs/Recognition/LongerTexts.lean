import Rehearsal.Proofs.Recognition.Priority

/-! # More words lose no command

  Two texts with a space between them are recognised by a rule that stands no later than the rules
  that recognise either of them. What occurs in one of the two still occurs in both together,
  because a space ends a word just as an end of the text does (`Pattern.Occurs.append_right`,
  `Pattern.Occurs.append_left`), and the more rules occur, the earlier one of them decides.

  Main statement: `rank_append_space`.
-/

namespace Rehearsal

open Text

namespace Rule

variable {r : Rule} {text : List Char}

/-- How many rules stand before the one that decides the text; all of them, if none does. -/
def rank (text : List Char) : Nat := all.findIdx (·.applies text)

theorem decides_iff_rank : r.Decides text ↔ all[rank text]? = some r := by
  rw [← deciding?_eq_some_iff, deciding?, rank, List.find?_eq_getElem?_findIdx]

theorem recognise_eq_unknown_iff_rank : recognise text = .unknown ↔ rank text = all.length := by
  rw [recognise_eq_unknown_iff, rank, List.findIdx_eq_length]
  simp only [← Bool.not_eq_true, applies_iff]

theorem rank_le_of_occurs {longer : List Char}
    (h : ∀ r ∈ all, r.pattern.Occurs text → r.pattern.Occurs longer) : rank longer ≤ rank text := by
  apply List.findIdx_le_findIdx
  intro r hr happlies
  rw [applies_iff] at happlies ⊢
  exact h r hr happlies

/-- **More words lose no command**: of two texts with a space between them, the rule that decides
    stands no later than the rule that decides either of them, where no rule counts as last. If
    nothing is recognised in the whole, nothing is in either. -/
theorem rank_append_space (a b : List Char) :
    rank (a ++ ' ' :: b) ≤ rank a ∧ rank (a ++ ' ' :: b) ≤ rank b ∧
      (∀ text r, r.Decides text ↔ all[rank text]? = some r) ∧
      (∀ text, recognise text = .unknown ↔ rank text = all.length) ∧
      (recognise (a ++ ' ' :: b) = .unknown → recognise a = .unknown ∧ recognise b = .unknown) := by
  have hspace : isWord ' ' = false := by decide +kernel
  have hleft : rank (a ++ ' ' :: b) ≤ rank a := by
    apply rank_le_of_occurs
    intro r _ h
    apply h.append_right
    rw [List.head?_cons, Option.any_some, hspace]
  have hright : rank (a ++ ' ' :: b) ≤ rank b := by
    apply rank_le_of_occurs
    intro r _ h
    -- the space belongs to what stands before `b`
    have hlast : (a ++ [' ']).getLast?.any isWord = false := by
      rw [List.getLast?_concat, Option.any_some, hspace]
    have hwhole := h.append_left hlast
    rwa [List.append_assoc, List.singleton_append] at hwhole
  refine ⟨hleft, hright, fun text r => decides_iff_rank, fun text => recognise_eq_unknown_iff_rank,
    ?_⟩
  intro hunknown
  simp only [recognise_eq_unknown_iff_rank] at hunknown ⊢
  have hle : ∀ text, rank text ≤ all.length := fun text => List.findIdx_le_length
  have ha := hle a
  have hb := hle b
  omega

/-- Two texts may say more together than either of them. -/
example : recognise "tap".toList = .unknown ∧ recognise "tempo 120".toList = .setTempo (some 120) ∧
    recognise "tap tempo 120".toList = .tapTempo := by
  decide +kernel

end Rule

end Rehearsal
