import Rehearsal.Recognition.Model

/-! # The shape of what is trained

  Parameters and gradients have one row and one number for each kind, and each row has one entry for
  each column (`Parameters.Shaped`). Training begins with zeros of this shape. Adding the share of a
  phrase to a gradient keeps the shape, and so does a step down the gradient, so it holds after
  every pass and at every phrase of the pass.
-/

namespace Rehearsal

namespace Parameters

variable {kinds columns : Nat} {p gradient : Parameters}

/-- One row and one number for each kind, and one entry of a row for each column. -/
structure Shaped (kinds columns : Nat) (p : Parameters) : Prop where
  rows : p.rows.size = kinds
  row : ∀ row ∈ p.rows, row.size = columns
  bias : p.bias.size = kinds

theorem shaped_zero (kinds columns : Nat) : (zero kinds columns).Shaped kinds columns where
  rows := Array.size_replicate
  row row h := by
    rw [(Array.mem_replicate.1 h).2, Array.size_replicate]
  bias := Array.size_replicate

/-! ### Probabilities -/

@[simp] theorem size_softmax (scores : Array Float) : (softmax scores).size = scores.size := by
  simp [softmax]

theorem Shaped.size_probabilities (h : p.Shaped kinds columns) (x : FeatureVector) :
    (p.probabilities x).size = kinds := by
  rw [probabilities, size_softmax, scores, Array.size_zipWith, h.rows, h.bias, Nat.min_self]

theorem Shaped.size_errors (h : p.Shaped kinds columns) (x : FeatureVector) (target : Nat) :
    (p.errors x target).size = kinds := by
  rw [errors, Array.size_mapIdx, h.size_probabilities]

/-! ### Gradients -/

@[simp] theorem size_addScaled (row : Array Float) (factor : Float) (x : FeatureVector) :
    (addScaled row factor x).size = row.size := by
  unfold addScaled
  induction x generalizing row with
  | nil => rfl
  | cons entry x ih => rw [List.foldl_cons, ih, Array.size_modify]

theorem Shaped.accumulate (hp : p.Shaped kinds columns) (hg : gradient.Shaped kinds columns)
    (x : FeatureVector) (target : Nat) : (p.accumulate gradient x target).Shaped kinds columns where
  rows := by
    rw [Parameters.accumulate, Array.size_zipWith, hg.rows, hp.size_errors, Nat.min_self]
  row row h := by
    obtain ⟨i, hi, rfl⟩ := Array.mem_iff_getElem.1 h
    simp only [Parameters.accumulate, Array.getElem_zipWith, size_addScaled]
    exact hg.row _ (Array.getElem_mem _)
  bias := by
    rw [Parameters.accumulate, Array.size_zipWith, hg.bias, hp.size_errors, Nat.min_self]

theorem Shaped.gradientOf (hp : p.Shaped kinds columns) (data : List (FeatureVector × Nat)) :
    (p.gradientOf kinds columns data).Shaped kinds columns :=
  List.foldlRecOn data _ (shaped_zero kinds columns) fun _ hg entry _ =>
    hp.accumulate hg entry.1 entry.2

/-! ### Steps -/

theorem Shaped.descend (hp : p.Shaped kinds columns) (hg : gradient.Shaped kinds columns)
    (phrases : Float) : (p.descend gradient phrases).Shaped kinds columns where
  rows := by rw [Parameters.descend, Array.size_zipWith, hp.rows, hg.rows, Nat.min_self]
  row row h := by
    obtain ⟨i, hi, rfl⟩ := Array.mem_iff_getElem.1 h
    simp only [Parameters.descend, Array.getElem_zipWith, Array.size_zipWith]
    rw [hp.row _ (Array.getElem_mem _), hg.row _ (Array.getElem_mem _), Nat.min_self]
  bias := by rw [Parameters.descend, Array.size_zipWith, hp.bias, hg.bias, Nat.min_self]

theorem Shaped.pass (hp : p.Shaped kinds columns) (data : List (FeatureVector × Nat)) :
    (pass kinds columns data p).Shaped kinds columns := hp.descend (hp.gradientOf data) _

end Parameters

theorem Model.shaped_descent (kinds columns : Nat) (data : List (FeatureVector × Nat)) (n : Nat) :
    (descent kinds columns data n).Shaped kinds columns := by
  induction n with
  | zero => exact Parameters.shaped_zero kinds columns
  | succ n ih => exact ih.pass data

end Rehearsal
