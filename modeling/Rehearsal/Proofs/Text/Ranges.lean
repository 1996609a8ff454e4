import Mathlib.Data.List.TakeWhile
import Rehearsal.Text.Ranges

/-! # Tables of ranges as wholes

  Whether a class of characters contains another one, or has nothing in common with it, is decided
  for the two tables at once, range by range. The checks use the comparisons that are
  evaluated fastest.
-/

namespace Rehearsal.Text

namespace Ranges

/-- Whether the ranges are in order and apart from each other. -/
def inOrder : Ranges → Bool
  | [] => true
  | range :: rest =>
    Nat.ble range.1 range.2 && (rest.head?.all fun next => Nat.blt range.2 next.1) && inOrder rest

/-- Whether one of the ranges holds everything from `a` to `b`. -/
def covers (ranges : Ranges) (a b : Nat) : Bool :=
  ranges.any fun range => Nat.ble range.1 a && Nat.ble b range.2

/-- Whether each part lies in one of the ranges, in one pass over both. -/
def coversAll : Ranges → Ranges → Bool
  | [], parts => parts.isEmpty
  | range :: rest, parts =>
    coversAll rest (parts.dropWhile fun part => Nat.ble range.1 part.1 && Nat.ble part.2 range.2)

/-- Whether every character of the table passes a check. -/
def allCharacters (ranges : Ranges) (check : Char → Bool) : Bool :=
  ranges.all fun range =>
    (List.range' range.1 (range.2 + 1 - range.1)).all fun n => check (Char.ofNat n)

/-- Whether two tables have nothing in common. -/
def apart (ranges others : Ranges) : Bool :=
  ranges.all fun range => others.all fun other => Nat.blt range.2 other.1 || Nat.blt other.2 range.1

variable {ranges others parts : Ranges} {range part : Nat × Nat} {n : Nat}

/-- What is contained lies in one of the ranges. -/
theorem exists_of_contains (h : ranges.contains n = true) :
    ∃ range ∈ ranges, range.1 ≤ n ∧ n ≤ range.2 := by
  induction ranges with
  | nil => cases h
  | cons range rest ih =>
    unfold contains at h
    split at h
    · cases h
    · split at h
      · exact ⟨range, List.mem_cons_self, by omega, by omega⟩
      · obtain ⟨other, hother, hn⟩ := ih h
        exact ⟨other, List.mem_cons_of_mem _ hother, hn⟩

theorem of_allCharacters (check : Char → Bool) (h : ranges.allCharacters check = true) {c : Char}
    (hc : ranges.contains c.toNat = true) : check c = true := by
  obtain ⟨range, hrange, low_le, le_high⟩ := exists_of_contains hc
  have hmem : c.toNat ∈ List.range' range.1 (range.2 + 1 - range.1) := by
    rw [List.mem_range'_1]
    omega
  have hcheck := List.all_eq_true.1 (List.all_eq_true.1 h range hrange) _ hmem
  rwa [Char.ofNat_toNat] at hcheck

/-- In a table in order, every range lies behind the first one. -/
theorem lt_of_inOrder {rest : Ranges} (h : inOrder (range :: rest) = true) {other : Nat × Nat}
    (hother : other ∈ rest) : range.1 ≤ range.2 ∧ range.2 < other.1 := by
  induction rest generalizing range with
  | nil => cases hother
  | cons next rest ih =>
    -- the first range lies before the next one, and that one before all others
    rw [inOrder, Bool.and_eq_true, Bool.and_eq_true, Nat.ble_eq] at h
    obtain ⟨⟨hrange, hnext⟩, h⟩ := h
    have hnext : range.2 < next.1 := by rwa [List.head?_cons, Option.all_some, Nat.blt_eq] at hnext
    rcases List.mem_cons.1 hother with rfl | hother
    · exact ⟨hrange, hnext⟩
    · have hlater := ih h hother
      exact ⟨hrange, by omega⟩

/-- The search finds whatever lies in one of the ranges of a table in order. -/
theorem contains_of_mem (h : ranges.inOrder = true) (hrange : range ∈ ranges) (low_le : range.1 ≤ n)
    (le_high : n ≤ range.2) : ranges.contains n = true := by
  induction ranges with
  | nil => cases hrange
  | cons first rest ih =>
    unfold contains
    rcases List.mem_cons.1 hrange with rfl | hrange
    · rw [if_neg (by omega), if_pos le_high]
    · -- the search goes on behind the first range, because `n` lies in a later one
      have hlater := lt_of_inOrder h hrange
      rw [if_neg (by omega), if_neg (by omega)]
      rw [inOrder, Bool.and_eq_true] at h
      exact ih h.2 hrange

theorem contains_of_covers {a b : Nat} (h : ranges.inOrder = true)
    (hcovers : covers ranges a b = true) (low_le : a ≤ n) (le_high : n ≤ b) :
    ranges.contains n = true := by
  obtain ⟨range, hrange, hab⟩ := List.any_eq_true.1 hcovers
  rw [Bool.and_eq_true, Nat.ble_eq, Nat.ble_eq] at hab
  exact contains_of_mem h hrange (by omega) (by omega)

/-- A part either lies in the present range or is still to be covered. -/
theorem exists_of_coversAll (h : coversAll ranges parts = true) (hpart : part ∈ parts) :
    ∃ range ∈ ranges, range.1 ≤ part.1 ∧ part.2 ≤ range.2 := by
  induction ranges generalizing parts with
  | nil =>
    rw [List.isEmpty_iff.1 h] at hpart
    cases hpart
  | cons range rest ih =>
    -- the parts in the first range come first; the rest is covered by later ranges
    let within : Nat × Nat → Bool := fun part => Nat.ble range.1 part.1 && Nat.ble part.2 range.2
    rw [← List.takeWhile_append_dropWhile (p := within) (l := parts)] at hpart
    rcases List.mem_append.1 hpart with hpart | hpart
    · have hwithin := List.mem_takeWhile_imp hpart
      rw [Bool.and_eq_true, Nat.ble_eq, Nat.ble_eq] at hwithin
      exact ⟨range, List.mem_cons_self, hwithin⟩
    · obtain ⟨other, hother, hwithin⟩ := ih h hpart
      exact ⟨other, List.mem_cons_of_mem _ hother, hwithin⟩

theorem contains_of_coversAll (h : ranges.inOrder = true) (hcovers : ranges.coversAll parts = true)
    (hn : parts.contains n = true) : ranges.contains n = true := by
  obtain ⟨part, hpart, low_le, le_high⟩ := exists_of_contains hn
  obtain ⟨range, hrange, hlow, hhigh⟩ := exists_of_coversAll hcovers hpart
  exact contains_of_mem h hrange (by omega) (by omega)

theorem not_contains_of_apart (h : apart ranges others = true) (hn : others.contains n = true) :
    ranges.contains n = false := by
  rw [← Bool.not_eq_true]
  intro hn'
  obtain ⟨range, hrange, low_le, le_high⟩ := exists_of_contains hn'
  obtain ⟨other, hother, low_le', le_high'⟩ := exists_of_contains hn
  have hapart := List.all_eq_true.1 (List.all_eq_true.1 h range hrange) other hother
  rw [Bool.or_eq_true, Nat.blt_eq, Nat.blt_eq] at hapart
  omega

end Ranges

end Rehearsal.Text
