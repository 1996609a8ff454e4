import Mathlib.Data.List.Basic

/-! # Lists as records of the past

  Statements about the past often say that something happened and that nothing has undone it
  since. `Since P Q xs` says so of a record: some entry has `P`, and all entries after it have
  `Q`. One more entry at the end either has `P` itself or leaves the matter as it was, provided
  that it has `Q`; this is all that an induction along the record needs.
-/

namespace Rehearsal

variable {α β : Type} {P Q : α → Prop} {xs : List α} {x : α}

theorem filterMap_cons_toList (f : α → Option β) (x : α) (xs : List α) :
    (x :: xs).filterMap f = (f x).toList ++ xs.filterMap f := by
  cases hx : f x with
  | none => simp [hx]
  | some y => simp [hx]

theorem filterMap_snoc_toList (f : α → Option β) (xs : List α) (x : α) :
    (xs ++ [x]).filterMap f = xs.filterMap f ++ (f x).toList := by
  rw [List.filterMap_append, filterMap_cons_toList, List.filterMap_nil, List.append_nil]

/-- Some entry has `P`, and all entries after it have `Q`. -/
def Since (P Q : α → Prop) (xs : List α) : Prop :=
  ∃ earlier x later, xs = earlier ++ x :: later ∧ P x ∧ ∀ y ∈ later, Q y

theorem not_since_nil : ¬ Since P Q [] := by
  rintro ⟨earlier, x, later, hsplit, -⟩
  simp at hsplit

/-- One more entry. -/
theorem since_snoc : Since P Q (xs ++ [x]) ↔ P x ∨ (Since P Q xs ∧ Q x) := by
  constructor
  -- the entry with `P` is the last one, or comes before it
  · rintro ⟨earlier, y, later, hsplit, hy, hlater⟩
    rcases List.eq_nil_or_concat later with rfl | ⟨front, last, rfl⟩
    · have hlast := (List.append_inj' hsplit rfl).2
      obtain rfl := (List.cons.inj hlast).1
      exact .inl hy
    · rw [List.concat_eq_append] at hsplit hlater
      rw [← List.cons_append, ← List.append_assoc] at hsplit
      obtain ⟨rfl, hlast⟩ := List.append_inj' hsplit rfl
      obtain rfl := (List.cons.inj hlast).1
      have hQ : ∀ z ∈ front, Q z := fun z hz => hlater z (List.mem_append_left _ hz)
      exact .inr ⟨⟨earlier, y, front, rfl, hy, hQ⟩, hlater x (by simp)⟩
  · rintro (hx | ⟨⟨earlier, y, later, rfl, hy, hlater⟩, hx⟩)
    · exact ⟨xs, x, [], rfl, hx, by simp⟩
    · refine ⟨earlier, y, later ++ [x], by simp, hy, ?_⟩
      intro z hz
      rcases List.mem_append.1 hz with hz | hz
      · exact hlater z hz
      · rw [List.mem_singleton.1 hz]
        exact hx

end Rehearsal
