import Mathlib.Data.List.Nodup
import Mathlib.Order.Defs.Unbundled
import Rehearsal.Recognition.Tally

/-! # What a tally says

  A tally is read through `count`: how often a thing was counted, zero for one that is not listed.
  Counting a thing adds one to its own count and to no other (`Counts.add`), so in the end every
  count is the number of times the thing was there (`counts_of`).

  Nothing else is in a tally: two tallies with the same counts are equal (`Counts.unique`). So the
  order in which things are counted leaves no trace.
-/

namespace Rehearsal

namespace Tally

/-! ## Counts -/

section Reading

variable {α : Type}

@[simp] theorem things_nil : things ([] : Tally α) = [] := rfl

@[simp] theorem things_cons (entry : α × Nat) (t : Tally α) :
    things (entry :: t) = entry.1 :: t.things := rfl

variable [DecidableEq α] {x : α} {n : Nat} {t : Tally α}

/-- How often a thing was counted. -/
def count : Tally α → α → Nat
  | [], _ => 0
  | (y, n) :: rest, x => if x = y then n else count rest x

@[simp] theorem count_nil (x : α) : count [] x = 0 := rfl

theorem count_cons (entry : α × Nat) (t : Tally α) (x : α) :
    count (entry :: t) x = if x = entry.1 then entry.2 else t.count x := rfl

theorem count_of_not_mem (h : x ∉ t.things) : t.count x = 0 := by
  induction t with
  | nil => rfl
  | cons entry t ih =>
    rw [things_cons, List.mem_cons, not_or] at h
    rw [count_cons, if_neg h.1, ih h.2]

theorem mem_iff_count (h : t.things.Nodup) : (x, n) ∈ t ↔ x ∈ t.things ∧ t.count x = n := by
  induction t with
  | nil => simp
  | cons entry t ih =>
    rw [things_cons, List.nodup_cons] at h
    rw [things_cons, count_cons, List.mem_cons, List.mem_cons, ih h.2]
    by_cases hx : x = entry.1
    · subst hx
      simp [h.1, Prod.ext_iff, eq_comm]
    · simp [hx, Prod.ext_iff]

end Reading

/-! ## Counting one more -/

section Order

variable {α : Type} [LT α] [IsStrictTotalOrder α (· < ·)] {x y : α} {t : Tally α}

variable [DecidableLT α]

/-- A thing comes before the first one that is listed, behind it, or is that one. -/
theorem add_cons (x : α) (entry : α × Nat) (t : Tally α) :
    (x < entry.1 ∧ add x (entry :: t) = (x, 1) :: entry :: t) ∨
      (entry.1 < x ∧ add x (entry :: t) = entry :: add x t) ∨
        (x = entry.1 ∧ add x (entry :: t) = (x, entry.2 + 1) :: t) := by
  rw [add]
  split_ifs with hbefore hbehind
  · exact .inl ⟨hbefore, rfl⟩
  · exact .inr (.inl ⟨hbehind, rfl⟩)
  · have heq : x = entry.1 := Std.Trichotomous.trichotomous x entry.1 hbefore hbehind
    exact .inr (.inr ⟨heq, by rw [heq]⟩)

theorem mem_things_add : y ∈ (t.add x).things ↔ y = x ∨ y ∈ t.things := by
  induction t with
  | nil => simp [add]
  | cons entry t ih =>
    rcases add_cons x entry t with ⟨-, h⟩ | ⟨-, h⟩ | ⟨heq, h⟩
    · simp [h]
    · simp only [h, things_cons, List.mem_cons, ih]
      exact or_left_comm
    · rw [h, things_cons, things_cons, ← heq, List.mem_cons]
      simp

theorem increasing_add (hincreasing : t.things.Pairwise (· < ·)) :
    (t.add x).things.Pairwise (· < ·) := by
  induction t with
  | nil => simp [add]
  | cons entry t ih =>
    obtain ⟨hfirst, hrest⟩ := List.pairwise_cons.1 hincreasing
    -- in front of the first entry, somewhere behind it, or at the entry itself
    rcases add_cons x entry t with ⟨hbefore, h⟩ | ⟨hbehind, h⟩ | ⟨heq, h⟩
    · rw [h]
      refine List.pairwise_cons.2 ⟨?_, hincreasing⟩
      intro y hy
      rcases List.mem_cons.1 hy with rfl | hy
      · exact hbefore
      · exact trans_of (· < ·) hbefore (hfirst y hy)
    · rw [h]
      refine List.pairwise_cons.2 ⟨?_, ih hrest⟩
      intro y hy
      rcases mem_things_add.1 hy with rfl | hy
      · exact hbehind
      · exact hfirst y hy
    · rw [h, things_cons, heq]
      exact hincreasing

theorem positive_add (hpositive : ∀ entry ∈ t, 0 < entry.2) :
    ∀ entry ∈ t.add x, 0 < entry.2 := by
  induction t with
  | nil => simp [add]
  | cons entry t ih =>
    obtain ⟨hfirst, hrest⟩ := List.forall_mem_cons.1 hpositive
    -- a new entry counts one, an old one is counted up
    rcases add_cons x entry t with ⟨-, h⟩ | ⟨-, h⟩ | ⟨-, h⟩
    · rw [h]
      exact List.forall_mem_cons.2 ⟨Nat.one_pos, hpositive⟩
    · rw [h]
      exact List.forall_mem_cons.2 ⟨hfirst, ih hrest⟩
    · rw [h]
      exact List.forall_mem_cons.2 ⟨Nat.succ_pos _, hrest⟩

theorem count_add [DecidableEq α] (hincreasing : t.things.Pairwise (· < ·)) (y : α) :
    (t.add x).count y = t.count y + if y = x then 1 else 0 := by
  induction t with
  | nil => simp [add, count_cons]
  | cons entry t ih =>
    obtain ⟨hfirst, hrest⟩ := List.pairwise_cons.1 hincreasing
    rcases add_cons x entry t with ⟨hbefore, h⟩ | ⟨hbehind, h⟩ | ⟨heq, h⟩
    · -- nothing that is listed is the thing
      have hnone : Tally.count (entry :: t) x = 0 := by
        refine count_of_not_mem fun hx => ?_
        rcases List.mem_cons.1 hx with rfl | hx
        · exact irrefl_of (· < ·) _ hbefore
        · exact irrefl_of (· < ·) x (trans_of (· < ·) hbefore (hfirst x hx))
      rw [h, count_cons]
      by_cases hy : y = x
      · simp [hy, hnone]
      · simp [hy]
    · rw [h, count_cons, count_cons, ih hrest]
      -- the first entry is another thing, so the ones behind it decide
      by_cases hy : y = entry.1
      · have hne : entry.1 ≠ x := fun heq => irrefl_of (· < ·) x (heq ▸ hbehind)
        simp [hy, hne]
      · simp [hy]
    · rw [h, count_cons, count_cons, ← heq]
      by_cases hy : y = x
      · simp [hy]
      · simp [hy]

end Order

/-! ## Counting many -/

variable {α : Type} [LT α] [DecidableEq α] {x : α} {t u : Tally α} {f g : α → Nat}

/-- A tally as counting makes it, with the counts that it shows. -/
structure Counts (t : Tally α) (f : α → Nat) : Prop where
  increasing : t.things.Pairwise (· < ·)
  /-- Only what was counted is listed. -/
  positive : ∀ entry ∈ t, 0 < entry.2
  /-- The counts. -/
  count_eq : ∀ x, t.count x = f x

theorem counts_nil : Counts ([] : Tally α) fun _ => 0 := ⟨.nil, by simp, count_nil⟩

theorem Counts.congr (h : t.Counts f) (hcount : ∀ x, f x = g x) : t.Counts g :=
  ⟨h.increasing, h.positive, fun x => (h.count_eq x).trans (hcount x)⟩

variable [IsStrictTotalOrder α (· < ·)]

theorem Counts.nodup (h : t.Counts f) : t.things.Nodup := h.increasing.nodup

theorem Counts.mem_things (h : t.Counts f) : x ∈ t.things ↔ 0 < f x := by
  rw [← h.count_eq]
  constructor
  · intro hx
    exact h.positive _ ((mem_iff_count h.nodup).2 ⟨hx, rfl⟩)
  · intro hpos
    by_contra hx
    rw [count_of_not_mem hx] at hpos
    exact Nat.lt_irrefl 0 hpos

theorem Counts.mem_iff (h : t.Counts f) {n : Nat} : (x, n) ∈ t ↔ n = f x ∧ 0 < n := by
  rw [mem_iff_count h.nodup, h.mem_things, h.count_eq]
  grind

/-- A tally is known by its counts. -/
theorem Counts.unique (ht : t.Counts f) (hu : u.Counts f) : t = u := by
  have hperm : t.Perm u := by
    rw [List.perm_ext_iff_of_nodup (.of_map _ ht.nodup) (.of_map _ hu.nodup)]
    rintro ⟨x, n⟩
    rw [ht.mem_iff, hu.mem_iff]
  -- both are in order, and no two entries can be each before the other
  refine hperm.eq_of_pairwise ?_ (List.pairwise_map.1 ht.increasing)
    (List.pairwise_map.1 hu.increasing)
  intro a b _ _ hab hba
  exact absurd (trans_of (· < ·) hab hba) (irrefl_of (· < ·) _)

variable [DecidableLT α]

/-- Counting a thing adds one to its count. -/
theorem Counts.add (h : t.Counts f) (x : α) :
    (t.add x).Counts fun y => f y + if y = x then 1 else 0 where
  increasing := increasing_add h.increasing
  positive := positive_add h.positive
  count_eq y := by rw [count_add h.increasing, h.count_eq]

theorem Counts.addAll (h : t.Counts f) (xs : List α) :
    (t.addAll xs).Counts fun y => f y + xs.count y := by
  induction xs generalizing t f with
  | nil => exact h
  | cons x xs ih =>
    refine (ih (h.add x)).congr fun y => ?_
    rw [List.count_cons, Nat.add_assoc, Nat.add_comm (xs.count y)]
    simp only [beq_iff_eq, eq_comm (a := y)]

/-- The counts of a tally are how often the things were there. -/
theorem counts_of (xs : List α) : (of xs).Counts fun y => xs.count y :=
  (counts_nil.addAll xs).congr fun _ => Nat.zero_add _

theorem of_perm {xs ys : List α} (h : xs.Perm ys) : of xs = of ys :=
  (counts_of xs).unique ((counts_of ys).congr fun x => (h.count_eq x).symm)

end Tally

/-! ## Distinct elements -/

section Distinct

variable {α : Type} [LT α] [DecidableLT α] [DecidableEq α] [IsStrictTotalOrder α (· < ·)]

theorem mem_distinct {x : α} {xs : List α} : x ∈ distinct xs ↔ x ∈ xs := by
  unfold distinct
  rw [(Tally.counts_of xs).mem_things, List.count_pos_iff]

theorem distinct_increasing (xs : List α) : (distinct xs).Pairwise (· < ·) :=
  (Tally.counts_of xs).increasing

theorem count_distinct (xs : List α) (x : α) :
    (distinct xs).count x = if x ∈ xs then 1 else 0 := by
  rw [(distinct_increasing xs).nodup.count]
  simp only [mem_distinct]

theorem distinct_perm {xs ys : List α} (h : xs.Perm ys) : distinct xs = distinct ys := by
  unfold distinct
  rw [Tally.of_perm h]

end Distinct

end Rehearsal
