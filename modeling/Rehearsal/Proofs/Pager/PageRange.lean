import Mathlib.Data.List.Induction
import Rehearsal.Pager

/-! # The page stays in range

  A pager is moved forward and back and by jumps, and it is told how many pages there are: at any
  time, as often as one likes, and perhaps wrongly. Every move brings the page between the first
  and the last one. Being told a length is no move, so a length that lies below the open page
  leaves the page beyond the last one; the next move brings it back.

  The key fact is `current_le_last_goto`; `Placed` is what every operation keeps.

  Main statement: `page_in_range`.
-/

namespace Rehearsal

/-- What can be done to a pager. -/
inductive PagerOp where
  | next
  | prev
  | goto (page : Nat)
  | setTotal (total : Option Nat)
  deriving DecidableEq, Repr

namespace Pager

def operate (p : Pager) : PagerOp → Pager
  | .next => p.next
  | .prev => p.prev
  | .goto page => p.goto page
  | .setTotal total => p.withTotal total

/-- The pager after some operations, one after the other. -/
def after (p : Pager) (ops : List PagerOp) : Pager := ops.foldl operate p

@[simp] theorem after_nil (p : Pager) : p.after [] = p := rfl

@[simp] theorem after_snoc (p : Pager) (ops : List PagerOp) (op : PagerOp) :
    p.after (ops ++ [op]) = (p.after ops).operate op := by
  simp [after]

variable {p : Pager}

/-! ## Moves -/

@[simp] theorem total_goto (p : Pager) (page : Nat) : (p.goto page).total = p.total := rfl

theorem operate_eq (p : Pager) (op : PagerOp) :
    (∃ page, p.operate op = p.goto page) ∨
      ∃ total, op = .setTotal total ∧ p.operate op = p.withTotal total := by
  cases op with
  | next => exact .inl ⟨p.current + 1, rfl⟩
  | prev => exact .inl ⟨p.current - 1, rfl⟩
  | goto page => exact .inl ⟨page, rfl⟩
  | setTotal total => exact .inr ⟨total, rfl, rfl⟩

/-- A known length is not zero, and pages count from one. -/
structure Placed (p : Pager) : Prop where
  /-- A length of zero says nothing. -/
  total_ne_zero : p.total ≠ some 0
  /-- There is no page before the first one. -/
  current_pos : 1 ≤ p.current

theorem placed_ofPath (path : String) : (ofPath path).Placed := ⟨by simp [ofPath], Nat.le_refl 1⟩

namespace Placed

theorem last_pos (h : p.Placed) : 1 ≤ p.last := by
  unfold last
  cases htotal : p.total with
  | none => simp [maxPage]
  | some n =>
    have hn : n ≠ 0 := by
      intro hzero
      exact h.total_ne_zero (by rw [htotal, hzero])
    show 1 ≤ n
    omega

/-- A jump ends between the first and the last page. -/
theorem current_le_last_goto (h : p.Placed) (page : Nat) : (p.goto page).current ≤ p.last := by
  have hlast := h.last_pos
  show max 1 (min page p.last) ≤ p.last
  omega

theorem goto (h : p.Placed) (page : Nat) : (p.goto page).Placed := by
  refine ⟨h.total_ne_zero, ?_⟩
  show 1 ≤ max 1 (min page p.last)
  omega

theorem withTotal (h : p.Placed) (total : Option Nat) : (p.withTotal total).Placed := by
  refine ⟨?_, h.current_pos⟩
  intro hzero
  have hfilter := (Option.filter_eq_some_iff.1 hzero).2
  simp at hfilter

theorem operate (h : p.Placed) (op : PagerOp) : (p.operate op).Placed := by
  rcases p.operate_eq op with ⟨page, hop⟩ | ⟨total, -, hop⟩
  · rw [hop]
    exact h.goto page
  · rw [hop]
    exact h.withTotal total

theorem after (h : p.Placed) (ops : List PagerOp) : (p.after ops).Placed := by
  induction ops using List.reverseRecOn with
  | nil => exact h
  | append_singleton ops op ih =>
    rw [after_snoc]
    exact ih.operate op

end Placed

/-! ## The greatest page number -/

theorem last_withTotal_le {total : Option Nat} (h : ∀ n, total = some n → n ≤ maxPage) :
    (p.withTotal total).last ≤ maxPage := by
  show (total.filter fun n => decide (0 < n)).getD maxPage ≤ maxPage
  cases hfilter : total.filter fun n => decide (0 < n) with
  | none => exact Nat.le_refl maxPage
  | some n => exact h n (Option.filter_eq_some_iff.1 hfilter).1

/-- If every length that is told is a page number, then so is the current page, however far one
    pages forward. -/
theorem current_le_maxPage (path : String) (ops : List PagerOp)
    (htotals : ∀ n, .setTotal (some n) ∈ ops → n ≤ maxPage) :
    ((ofPath path).after ops).current ≤ maxPage ∧ ((ofPath path).after ops).last ≤ maxPage := by
  induction ops using List.reverseRecOn with
  | nil => exact ⟨by simp [ofPath, maxPage], Nat.le_refl _⟩
  | append_singleton ops op ih =>
    obtain ⟨hcurrent, hlast⟩ := ih fun n hn => htotals n (List.mem_append_left _ hn)
    rw [after_snoc]
    rcases ((ofPath path).after ops).operate_eq op with ⟨page, hop⟩ | ⟨total, rfl, hop⟩
    · -- a move stays below the last page
      rw [hop]
      have hle := ((placed_ofPath path).after ops).current_le_last_goto page
      exact ⟨Nat.le_trans hle hlast, hlast⟩
    · rw [hop]
      refine ⟨hcurrent, last_withTotal_le ?_⟩
      rintro n rfl
      exact htotals n (by simp)

/-! ## Beyond the last page -/

/-- The page lies beyond the last one exactly right after a length was told that lies below the
    page that was open. -/
theorem total_lt_current_iff (path : String) (ops : List PagerOp) {n : Nat}
    (htotal : ((ofPath path).after ops).total = some n) :
    n < ((ofPath path).after ops).current ↔
      ∃ before, ops = before ++ [.setTotal (some n)] ∧
        n < ((ofPath path).after before).current := by
  rcases List.eq_nil_or_concat ops with rfl | ⟨before, op, rfl⟩
  · simp [ofPath] at htotal
  · rw [List.concat_eq_append, after_snoc] at htotal ⊢
    have hplaced := (placed_ofPath path).after before
    rcases ((ofPath path).after before).operate_eq op with ⟨page, hop⟩ | ⟨total, rfl, hop⟩
    · -- a move brings the page into range, whatever it was before
      have hle : (((ofPath path).after before).operate op).current ≤ n := by
        rw [hop] at htotal ⊢
        have hlast : ((ofPath path).after before).last = n := by
          rw [last, ← total_goto _ page, htotal, Option.getD_some]
        rw [← hlast]
        exact hplaced.current_le_last_goto page
      constructor
      · intro hlt
        omega
      · rintro ⟨front, hfront, hlt⟩
        obtain ⟨rfl, hlast⟩ := List.append_inj' hfront rfl
        obtain rfl := (List.cons.inj hlast).1
        exact hlt
    · -- a new length leaves the page where it is
      rw [hop] at htotal ⊢
      obtain ⟨rfl, -⟩ := Option.filter_eq_some_iff.1 htotal
      constructor
      · intro hlt
        exact ⟨before, rfl, hlt⟩
      · rintro ⟨front, hfront, hlt⟩
        obtain ⟨rfl, -⟩ := List.append_inj' hfront rfl
        exact hlt

/-- **The page stays in range**: take a new pager and do anything to it. A known length is never
    zero, and the page is never below the first one, nor above the greatest page number as long as
    no greater length was told. It is at most the last page, except right after a length was told
    that lies below the page that was open. -/
theorem page_in_range (path : String) (ops : List PagerOp) :
    ((ofPath path).after ops).total ≠ some 0 ∧
      1 ≤ ((ofPath path).after ops).current ∧
      ((∀ n, .setTotal (some n) ∈ ops → n ≤ maxPage) →
        ((ofPath path).after ops).current ≤ maxPage) ∧
      ∀ n, ((ofPath path).after ops).total = some n →
        (((ofPath path).after ops).current ≤ n ↔
          ¬ ∃ before, ops = before ++ [.setTotal (some n)] ∧
            n < ((ofPath path).after before).current) := by
  have hplaced := (placed_ofPath path).after ops
  refine ⟨hplaced.total_ne_zero, hplaced.current_pos, ?_, ?_⟩
  · intro htotals
    exact (current_le_maxPage path ops htotals).1
  · intro n htotal
    rw [← total_lt_current_iff path ops htotal]
    exact Nat.not_lt.symm

/-- A length that becomes known twice, the second time just long enough. -/
theorem page_in_range_just_long_enough :
    ((ofPath "etude.pdf").after [.goto 9, .setTotal (some 9), .next, .setTotal none, .prev,
        .setTotal (some 8)]).current ≤ maxPage ∧
      ((ofPath "etude.pdf").after [.goto 9, .setTotal (some 9), .next, .setTotal none, .prev,
        .setTotal (some 8)]).current ≤ 8 := by
  have hrange := (page_in_range "etude.pdf" [.goto 9, .setTotal (some 9), .next, .setTotal none,
    .prev, .setTotal (some 8)]).2.2
  refine ⟨hrange.1 ?_, (hrange.2 8 (by decide)).2 ?_⟩
  · intro n hn
    have hn : n = 9 ∨ n = 8 := by simpa using hn
    unfold maxPage
    omega
  · rintro ⟨before, hsplit, hlt⟩
    -- the page that was open before the last operation is the eighth
    have hbefore := congrArg List.dropLast hsplit
    rw [List.dropLast_concat] at hbefore
    rw [← hbefore] at hlt
    revert hlt
    decide

/-- The page lies beyond the last one when the length turns out to be shorter. -/
theorem page_beyond_shrunk_total :
    ((ofPath "etude.pdf").after [.goto 5, .setTotal (some 2)]).total = some 2 ∧
      ¬ ((ofPath "etude.pdf").after [.goto 5, .setTotal (some 2)]).current ≤ 2 := by
  decide

end Pager

end Rehearsal
