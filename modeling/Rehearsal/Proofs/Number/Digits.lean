import Mathlib.Data.List.Induction
import Rehearsal.Number.Decimal

/-! # Decimal digits read back

  A natural number is written in decimal digits without a needless zero in front (`IsNumeral`), and
  read back from them. With a point among the digits, what is in front of the point is such a
  numeral, and all digits together are the number of units (`withPoint_spec`).

  Main statements: `ofDigits_digitsOf`, `withPoint_spec`.
-/

namespace Rehearsal.Number

/-- Decimal digits, at least one, with no zero in front of others. -/
structure IsNumeral (ds : List Char) : Prop where
  ne_nil : ds ≠ []
  isDigit : ∀ c ∈ ds, c.isDigit = true
  /-- A zero in front stands alone. -/
  zero : ds.head? = some '0' → ds = ['0']

/-! ## The digits of a number -/

theorem digitsOf_ne_nil (n : Nat) : digitsOf n ≠ [] := List.length_pos_iff.1 Nat.length_toDigits_pos

theorem isDigit_of_mem_digitsOf {n : Nat} {c : Char} (h : c ∈ digitsOf n) : c.isDigit = true :=
  Nat.isDigit_of_mem_toDigits (by decide) (by decide) h

theorem head?_digitsOf_ne_zero {n : Nat} (h : 0 < n) : (digitsOf n).head? ≠ some '0' := by
  induction n using Nat.strongRecOn with
  | ind n ih =>
    unfold digitsOf
    by_cases hlt : n < 10
    · have hdigit : ∀ n < 10, 0 < n → [n.digitChar].head? ≠ some '0' := by decide
      rw [Nat.toDigits_of_lt_base hlt]
      exact hdigit n hlt h
    -- the first digit is that of the number without its last one
    · have hfront := ih (n / 10) (by omega) (by omega)
      rw [Nat.toDigits_of_base_le (by decide) (Nat.le_of_not_lt hlt), List.head?_append, ne_eq,
        Option.or_eq_some_iff, List.head?_eq_none_iff]
      rintro (hzero | ⟨hnil, -⟩)
      · exact hfront hzero
      · exact digitsOf_ne_nil _ hnil

theorem isNumeral_digitsOf (n : Nat) : IsNumeral (digitsOf n) where
  ne_nil := digitsOf_ne_nil n
  isDigit _ := isDigit_of_mem_digitsOf
  zero h := by
    obtain rfl | hpos := Nat.eq_zero_or_pos n
    · rfl
    · exact absurd h (head?_digitsOf_ne_zero hpos)

/-- A number is read back from its digits. -/
theorem ofDigits_digitsOf (n : Nat) : ofDigits (digitsOf n) = n := by
  have h : Nat.ofDigitChars 10 (Nat.toDigits 10 n) 0 = n := Nat.ofDigitChars_ten_toDigits
  rw [Nat.ofDigitChars_eq_foldl] at h
  simpa only [ofDigits, digitsOf, digitValue, Nat.mul_comm] using h

theorem ofDigits_concat (ds : List Char) (c : Char) :
    ofDigits (ds ++ [c]) = ofDigits ds * 10 + digitValue c := by
  simp [ofDigits]

theorem ofDigits_zeros (k : Nat) (ds : List Char) :
    ofDigits (List.replicate k '0' ++ ds) = ofDigits ds := by
  induction k with
  | zero => rfl
  | succ k ih => exact ih

/-- A row of digits is below the power of ten that has one digit more. -/
theorem ofDigits_lt {ds : List Char} (h : ∀ c ∈ ds, c.isDigit = true) :
    ofDigits ds < tenPow ds.length := by
  induction ds using List.reverseRecOn with
  | nil => decide
  | append_singleton ds c ih =>
    rw [List.forall_mem_append, List.forall_mem_singleton] at h
    have hfront := ih h.1
    have hlast : digitValue c ≤ 9 := by
      have hc : c.toNat ≤ 57 := (Char.isDigit_iff_toNat.1 h.2).2
      exact Nat.sub_le_of_le_add hc
    rw [ofDigits_concat, List.length_append, List.length_singleton, tenPow_succ]
    omega

/-! ## A point among the digits -/

theorem IsNumeral.take {ds : List Char} (h : IsNumeral ds) {k : Nat} (hk : 0 < k) :
    IsNumeral (ds.take k) where
  ne_nil := by simpa [Nat.pos_iff_ne_zero.1 hk] using h.ne_nil
  isDigit c hc := h.isDigit c (List.mem_of_mem_take hc)
  zero hzero := by
    rw [List.head?_take, if_neg (Nat.pos_iff_ne_zero.1 hk)] at hzero
    rw [h.zero hzero]
    exact List.take_of_length_le hk

theorem isDigit_of_mem_padded {width n : Nat} {c : Char} (h : c ∈ padded width n) :
    c.isDigit = true := by
  obtain hzero | hdigit := List.mem_append.1 h
  · rw [List.eq_of_mem_replicate hzero]
    rfl
  · exact isDigit_of_mem_digitsOf hdigit

theorem ofDigits_padded (width n : Nat) : ofDigits (padded width n) = n :=
  (ofDigits_zeros _ _).trans (ofDigits_digitsOf n)

theorem length_padded (width n : Nat) :
    (padded width n).length = max width (digitsOf n).length := by
  simp only [padded, List.length_append, List.length_replicate]
  omega

/-- What is in front of the point is a numeral: where zeros are filled in, a single one of them is
    in front. -/
theorem isNumeral_whole (places units : Nat) :
    IsNumeral ((padded (places + 1) units).take ((padded (places + 1) units).length - places)) := by
  -- filled up with zeros a single one stands before the point; otherwise nothing is filled up
  by_cases hshort : (digitsOf units).length < places + 1
  · have hfill : places + 1 - (digitsOf units).length = places - (digitsOf units).length + 1 := by
      omega
    have hlength : (padded (places + 1) units).length - places = 1 := by
      rw [length_padded]
      omega
    have hwhole : (padded (places + 1) units).take 1 = ['0'] := by
      simp [padded, hfill, List.replicate_succ]
    rw [hlength, hwhole]
    exact ⟨List.cons_ne_nil _ _, List.forall_mem_singleton.2 rfl, fun _ => rfl⟩
  · have hfill : places + 1 - (digitsOf units).length = 0 := by omega
    have hpadded : padded (places + 1) units = digitsOf units := by simp [padded, hfill]
    rw [hpadded]
    exact (isNumeral_digitsOf units).take (by omega)

/-- A number with a point: a numeral in front of it, as many digits behind it as there are places,
    and all of them together the units. -/
theorem withPoint_spec {places : Nat} (h : 0 < places) (units : Nat) :
    ∃ whole fraction, withPoint places units = whole ++ '.' :: fraction ∧ IsNumeral whole ∧
      fraction.length = places ∧ (∀ c ∈ fraction, c.isDigit = true) ∧
      ofDigits (whole ++ fraction) = units := by
  have hlength := length_padded (places + 1) units
  refine ⟨_, _, if_neg (Nat.pos_iff_ne_zero.1 h), isNumeral_whole places units, ?_, ?_, ?_⟩
  · rw [List.length_drop]
    omega
  · exact fun c hc => isDigit_of_mem_padded (List.mem_of_mem_drop hc)
  · rw [List.take_append_drop]
    exact ofDigits_padded _ _

end Rehearsal.Number
