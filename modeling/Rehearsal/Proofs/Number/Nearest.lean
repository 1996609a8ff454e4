import Mathlib.Data.Int.Log
import Mathlib.Algebra.Order.Field.Rat
import Mathlib.Data.Rat.Floor
import Mathlib.Tactic.Linarith
import Mathlib.Tactic.FieldSimp
import Mathlib.Tactic.Positivity
import Mathlib.Tactic.Ring
import Mathlib.Tactic.NormNum
import Rehearsal.Number.Binary64

/-! # The nearest datum

  A quotient is rounded to fifty-three bits in two steps: an exponent is found for it, and then the
  mantissa is rounded. Both depend on the value of the quotient alone (`exponentFor_eq`,
  `scaled_spec`).

  Main statements:

  - `canonical_ofQuotient`: the result has the form that the format asks for;
  - `ofQuotient_eq_of_near`: a quotient that is nearer to a datum than the middle between it and its
    neighbours is rounded to it.
-/

namespace Rehearsal.Number

theorem cast_twoPow (n : Nat) : (twoPow n : ℚ) = 2 ^ n := Nat.cast_pow 2 n

theorem cast_tenPow (n : Nat) : (tenPow n : ℚ) = 10 ^ n := Nat.cast_pow 10 n

theorem zpow_of_nonneg (b : ℚ) {k : Int} (h : 0 ≤ k) : b ^ k = b ^ k.toNat := by
  rw [← zpow_natCast, Int.toNat_of_nonneg h]

theorem zpow_of_not_nonneg (b : ℚ) {k : Int} (h : ¬ 0 ≤ k) : b ^ k = (b ^ (-k).toNat)⁻¹ := by
  rw [← zpow_natCast, Int.toNat_of_nonneg (by omega), zpow_neg, inv_inv]

/-! ## Rounding quotients -/

section Rounding

variable {num den k : Nat}

/-- A rounded quotient is at most one half away from the quotient, with the denominator cleared. -/
theorem two_mul_roundDiv (num : Nat) (hden : 0 < den) :
    2 * num ≤ 2 * (roundDiv num den * den) + den ∧
      2 * (roundDiv num den * den) ≤ 2 * num + den := by
  have hparts : num / den * den + num % den = num := Nat.div_add_mod' num den
  have hrest : num % den < den := Nat.mod_lt num hden
  unfold roundDiv
  dsimp only
  generalize num / den = quotient at *
  generalize num % den = rest at *
  have hsucc : (quotient + 1) * den = quotient * den + den := Nat.succ_mul quotient den
  -- the rest is below one half, above it, or just there
  split
  · omega
  · split
    · omega
    · split <;> omega

theorem roundDiv_near (num : Nat) (hden : 0 < den) :
    |(num : ℚ) / den - roundDiv num den| ≤ 1 / 2 := by
  have hden' : (0 : ℚ) < den := by exact_mod_cast hden
  obtain ⟨hle, hge⟩ := two_mul_roundDiv num hden
  have hle' : 2 * (num : ℚ) ≤ 2 * (roundDiv num den * den) + den := by exact_mod_cast hle
  have hge' : 2 * (roundDiv num den * den) ≤ 2 * (num : ℚ) + den := by exact_mod_cast hge
  rw [abs_le, neg_le_sub_iff_le_add, sub_le_iff_le_add, div_le_iff₀ hden', ← sub_le_iff_le_add,
    le_div_iff₀ hden']
  constructor <;> linarith

/-- What is less than one half away from a quotient is the rounded quotient. -/
theorem roundDiv_eq_of_near (hden : 0 < den) (h : |(num : ℚ) / den - k| < 1 / 2) :
    roundDiv num den = k := by
  have hround := roundDiv_near num hden
  rw [abs_lt] at h
  rw [abs_le] at hround
  have hle : (roundDiv num den : ℚ) < k + 1 := by linarith
  have hge : (k : ℚ) < roundDiv num den + 1 := by linarith
  have hle' : roundDiv num den < k + 1 := by exact_mod_cast hle
  have hge' : k < roundDiv num den + 1 := by exact_mod_cast hge
  omega

theorem roundDiv_mul_mul {c : Nat} (hc : 0 < c) (num den : Nat) :
    roundDiv (num * c) (den * c) = roundDiv num den := by
  unfold roundDiv
  dsimp only
  rw [Nat.mul_div_mul_right num den hc, Nat.mul_mod_mul_right, ← Nat.mul_assoc]
  simp only [Nat.mul_lt_mul_right hc]

end Rounding

namespace Binary64

/-- The mantissa that is rounded is the quotient without its power of two. -/
theorem scaled_spec (num : Nat) {den : Nat} (hden : 0 < den) (shift : Int) :
    ∃ n d, 0 < d ∧ scaled num den shift = roundDiv n d ∧
      (n : ℚ) / d = (num : ℚ) / den / 2 ^ shift := by
  unfold scaled
  split
  · rename_i hshift
    refine ⟨num, den * twoPow shift.toNat, Nat.mul_pos hden (twoPow_pos _), rfl, ?_⟩
    rw [zpow_of_nonneg 2 hshift, Nat.cast_mul, cast_twoPow, div_div]
  · rename_i hshift
    refine ⟨num * twoPow (-shift).toNat, den, hden, rfl, ?_⟩
    rw [zpow_of_not_nonneg 2 hshift, Nat.cast_mul, cast_twoPow, div_inv_eq_mul, div_mul_eq_mul_div]

variable {num den : Nat}

theorem quotient_pos (h : 0 < num) (hden : 0 < den) : (0 : ℚ) < num / den :=
  div_pos (Nat.cast_pos.2 h) (Nat.cast_pos.2 hden)

/-- The lengths of the two numbers tell the size of their quotient within a factor of four. -/
theorem zpow_le_div (h : 0 < num) (hden : 0 < den) :
    (2 : ℚ) ^ ((num.log2 : Int) - den.log2 - 1) ≤ num / den ∧
      (num : ℚ) / den < 2 ^ ((num.log2 : Int) - den.log2 + 1) := by
  have hnum' : (0 : ℚ) < num := by exact_mod_cast h
  have hden' : (0 : ℚ) < den := by exact_mod_cast hden
  -- each of the two lies between two powers of two that follow each other
  have hnum_low : (2 : ℚ) ^ (num.log2 : Int) ≤ num := by
    rw [zpow_natCast]
    exact_mod_cast Nat.log2_self_le h.ne'
  have hnum_high : (num : ℚ) < 2 ^ ((num.log2 : Int) + 1) := by
    rw [← Nat.cast_succ, zpow_natCast]
    exact_mod_cast Nat.lt_log2_self
  have hden_low : (2 : ℚ) ^ (den.log2 : Int) ≤ den := by
    rw [zpow_natCast]
    exact_mod_cast Nat.log2_self_le hden.ne'
  have hden_high : (den : ℚ) < 2 ^ ((den.log2 : Int) + 1) := by
    rw [← Nat.cast_succ, zpow_natCast]
    exact_mod_cast Nat.lt_log2_self
  constructor
  · rw [show (num.log2 : Int) - den.log2 - 1 = num.log2 - (den.log2 + 1) by ring,
      zpow_sub₀ two_ne_zero]
    exact div_le_div₀ hnum'.le hnum_low hden' hden_high.le
  · rw [show (num.log2 : Int) - den.log2 + 1 = num.log2 + 1 - den.log2 by ring,
      zpow_sub₀ two_ne_zero]
    exact div_lt_div₀ hnum_high hden_low (zpow_pos two_pos _).le (zpow_pos two_pos _)

/-- The comparison by which a first guess at the exponent is set right. -/
theorem short_iff (hden : 0 < den) (guess : Int) :
    (if 0 ≤ guess then num < den * twoPow guess.toNat * twoPow 52
      else num * twoPow (-guess).toNat < den * twoPow 52) ↔ (num : ℚ) / den < 2 ^ (guess + 52) := by
  have hden' : (0 : ℚ) < den := by exact_mod_cast hden
  have hsum : (2 : ℚ) ^ (guess + 52) = 2 ^ guess * 2 ^ 52 := by
    rw [zpow_add₀ two_ne_zero]
    rfl
  rw [div_lt_iff₀ hden', hsum]
  -- the power of two stands below the line, or above it
  split
  · rename_i hguess
    rw [zpow_of_nonneg 2 hguess, ← cast_twoPow, ← cast_twoPow 52, ← Nat.cast_lt (α := ℚ)]
    push_cast
    rw [mul_comm (_ * _) (den : ℚ), mul_assoc]
  · rename_i hguess
    have hpos : (0 : ℚ) < twoPow (-guess).toNat := by exact_mod_cast twoPow_pos _
    rw [zpow_of_not_nonneg 2 hguess, ← cast_twoPow, ← cast_twoPow 52, ← Nat.cast_lt (α := ℚ)]
    push_cast
    rw [← lt_div_iff₀ hpos]
    constructor <;> intro hlt <;> convert hlt using 1 <;> field_simp

/-- The exponent is found from the value of the quotient alone. -/
theorem exponentFor_eq (h : 0 < num) (hden : 0 < den) :
    exponentFor num den = max minExponent (Int.log 2 ((num : ℚ) / den) - 52) := by
  have hpos := quotient_pos h hden
  obtain ⟨hlow, hhigh⟩ := zpow_le_div h hden
  have hlow := (Int.zpow_le_iff_le_log one_lt_two hpos).1 hlow
  have hhigh := (Int.lt_zpow_iff_log_lt one_lt_two hpos).1 hhigh
  unfold exponentFor
  dsimp only
  congr 1
  rw [if_congr (short_iff hden _) rfl rfl]
  split
  -- the guess from the logarithms is one too large, or it is right
  · rename_i hshort
    have hshort := (Int.lt_zpow_iff_log_lt one_lt_two hpos).1 hshort
    omega
  · rename_i hlong
    have hlong := (Int.zpow_le_iff_le_log one_lt_two hpos).1 (not_lt.1 hlong)
    omega

/-! ## The form of a result -/

/-- The mantissa and the exponent of a finite datum: fifty-three bits at most, and no fewer unless
    the exponent is the least one. -/
structure IsDatum (mantissa : Nat) (exponent : Int) : Prop where
  lt : mantissa < twoPow 53
  /-- All bits are used, or the exponent is the least one. -/
  full : twoPow 52 ≤ mantissa ∨ exponent = minExponent
  low : minExponent ≤ exponent
  high : exponent ≤ maxExponent

/-- A magnitude of the form that the format asks for. -/
def Canonical (x : Binary64) : Prop :=
  match x.magnitude with
  | .finite mantissa exponent => IsDatum mantissa exponent
  | .infinite | .undefined => True

theorem isDatum_zero : IsDatum 0 minExponent :=
  ⟨by decide, .inr rfl, le_rfl, by decide⟩

theorem canonical_zero (negative : Bool) : (zero negative).Canonical := isDatum_zero

/-- What is left of a quotient without its power of two has fifty-three bits before the point, or
    fewer at the least exponent. -/
theorem quotient_bounds (h : 0 < num) (hden : 0 < den) :
    (num : ℚ) / den / 2 ^ exponentFor num den < 2 ^ 53 ∧
      (minExponent < exponentFor num den →
        2 ^ 52 ≤ (num : ℚ) / den / 2 ^ exponentFor num den) := by
  have hpos := quotient_pos h hden
  have hpow : (0 : ℚ) < 2 ^ exponentFor num den := zpow_pos two_pos _
  have hexponent := exponentFor_eq h hden
  constructor
  · rw [div_lt_iff₀ hpow, ← zpow_natCast, ← zpow_add₀ two_ne_zero]
    refine (Int.lt_zpow_iff_log_lt one_lt_two hpos).2 ?_
    push_cast
    omega
  · intro hmin
    rw [le_div_iff₀ hpow, ← zpow_natCast, ← zpow_add₀ two_ne_zero]
    refine (Int.zpow_le_iff_le_log one_lt_two hpos).2 ?_
    push_cast
    omega

theorem ofQuotient_eq (h : 0 < num) (negative : Bool) (den : Nat) :
    ofQuotient negative num den =
      if scaled num den (exponentFor num den) = twoPow 53 then
        if maxExponent < exponentFor num den + 1 then ⟨negative, .infinite⟩
        else ⟨negative, .finite (twoPow 52) (exponentFor num den + 1)⟩
      else if maxExponent < exponentFor num den then ⟨negative, .infinite⟩
      else ⟨negative, .finite (scaled num den (exponentFor num den)) (exponentFor num den)⟩ := by
  unfold ofQuotient
  rw [if_neg h.ne']
  dsimp only
  split <;> rfl

/-- Rounding gives the form that the format asks for. -/
theorem canonical_ofQuotient (negative : Bool) (num : Nat) (hden : 0 < den) :
    (ofQuotient negative num den).Canonical := by
  by_cases hzero : num = 0
  · rw [ofQuotient, if_pos hzero]
    exact canonical_zero negative
  rw [ofQuotient_eq (Nat.pos_of_ne_zero hzero)]
  obtain ⟨hhigh, hlow⟩ := quotient_bounds (Nat.pos_of_ne_zero hzero) hden
  have hmin : minExponent ≤ exponentFor num den := le_max_left _ _
  obtain ⟨n, d, hd, hscaled, hvalue⟩ := scaled_spec num hden (exponentFor num den)
  have hnear := roundDiv_near n hd
  rw [← hscaled, hvalue, abs_le] at hnear
  -- rounding moves the quotient by one half at most, so the bounds of the quotient carry over
  have hle : scaled num den (exponentFor num den) ≤ twoPow 53 := by
    rw [← Nat.lt_succ_iff, ← Nat.cast_lt (α := ℚ), Nat.cast_succ, cast_twoPow]
    linarith
  have hge : minExponent < exponentFor num den →
      twoPow 52 ≤ scaled num den (exponentFor num den) := by
    intro h
    rw [← Nat.lt_succ_iff, ← Nat.cast_lt (α := ℚ), Nat.cast_succ, cast_twoPow]
    linarith [hlow h]
  -- rounded up to fifty-four bits or not, and each time too large or not
  split_ifs with hcarry hover hover
  · trivial
  · exact ⟨by decide, .inl le_rfl, by omega, by omega⟩
  · trivial
  · refine ⟨by omega, ?_, hmin, by omega⟩
    rcases hmin.lt_or_eq with h | h
    · exact .inl (hge h)
    · exact .inr h.symm

/-! ## What is rounded to a datum -/

/-- The mantissa is the natural number near to the quotient without its power of two. -/
theorem scaled_eq_of_near (hden : 0 < den) {shift : Int} {k : Nat}
    (h : |(num : ℚ) / den / 2 ^ shift - k| < 1 / 2) : scaled num den shift = k := by
  obtain ⟨n, d, hd, hscaled, hvalue⟩ := scaled_spec num hden shift
  rw [hscaled]
  rw [← hvalue] at h
  exact roundDiv_eq_of_near hd h

theorem pos_of_quotient {y : ℚ} {exponent : Int} (hy : (num : ℚ) / den = y * 2 ^ exponent)
    (hpos : 0 < y) : 0 < num := by
  refine Nat.pos_of_ne_zero ?_
  rintro rfl
  rw [Nat.cast_zero, zero_div] at hy
  exact (mul_pos hpos (zpow_pos two_pos exponent)).ne hy

/-- The exponent of a quotient is known by what is left without its power of two. -/
theorem exponentFor_eq_of_size {y : ℚ} {exponent : Int} (hy : (num : ℚ) / den = y * 2 ^ exponent)
    (hpos : 0 < y) (hlow : 2 ^ 52 ≤ y ∨ exponent = minExponent) (hhigh : y < 2 ^ 53)
    (hmin : minExponent ≤ exponent) : exponentFor num den = exponent := by
  have hpow : (0 : ℚ) < 2 ^ exponent := zpow_pos two_pos _
  have h : (0 : ℚ) < num / den := by
    rw [hy]
    exact mul_pos hpos hpow
  obtain ⟨hnum, hden⟩ : 0 < num ∧ 0 < den := by
    constructor <;> refine Nat.pos_of_ne_zero ?_ <;> rintro rfl <;> simp at h
  have hlog : Int.log 2 ((num : ℚ) / den) < exponent + 53 := by
    refine (Int.lt_zpow_iff_log_lt one_lt_two h).1 ?_
    rw [hy, Nat.cast_ofNat, zpow_add₀ two_ne_zero, mul_comm (2 ^ exponent)]
    exact mul_lt_mul_of_pos_right hhigh hpow
  rw [exponentFor_eq hnum hden]
  -- the logarithm is pinned from both sides, or the least exponent decides
  rcases hlow with hlow | hlow
  · have hlog' : exponent + 52 ≤ Int.log 2 ((num : ℚ) / den) := by
      refine (Int.zpow_le_iff_le_log one_lt_two h).1 ?_
      rw [hy, Nat.cast_ofNat, zpow_add₀ two_ne_zero, mul_comm (2 ^ exponent)]
      exact mul_le_mul_of_nonneg_right hlow hpow.le
    omega
  · omega

variable {mantissa : Nat} {exponent : Int}

/-- A quotient of the same size as a datum is rounded to it if it is less than half a unit away. -/
theorem ofQuotient_eq_of_same_size (d : IsDatum mantissa exponent) (hden : 0 < den) {y : ℚ}
    (hy : (num : ℚ) / den = y * 2 ^ exponent) (hpos : 0 < y)
    (hsize : 2 ^ 52 ≤ y ∨ exponent = minExponent) (hhigh : y < 2 ^ 53)
    (hnear : |y - mantissa| < 1 / 2) (negative : Bool) :
    ofQuotient negative num den = ⟨negative, .finite mantissa exponent⟩ := by
  have hpow : (0 : ℚ) < 2 ^ exponent := zpow_pos two_pos _
  have hnum : 0 < num := pos_of_quotient hy hpos
  have hfit : exponent ≤ maxExponent := d.high
  have hexponent : exponentFor num den = exponent :=
    exponentFor_eq_of_size hy hpos hsize hhigh d.low
  have hscaled : scaled num den exponent = mantissa := by
    refine scaled_eq_of_near hden ?_
    rwa [hy, mul_div_cancel_right₀ _ hpow.ne']
  rw [ofQuotient_eq hnum, hexponent, hscaled, if_neg (Nat.ne_of_lt d.lt), if_neg (by omega)]

/-- A quotient below a power of two is rounded up to it if it is less than a quarter of a unit away:
    it has one bit less before the point, so its own units are half as large. -/
theorem ofQuotient_eq_of_below (hden : 0 < den) {y : ℚ} (hy : (num : ℚ) / den = y * 2 ^ exponent)
    (hmin : minExponent < exponent) (hmax : exponent ≤ maxExponent) (hbelow : y < 2 ^ 52)
    (hnear : 2 ^ 52 - y < 1 / 4) (negative : Bool) :
    ofQuotient negative num den = ⟨negative, .finite (twoPow 52) exponent⟩ := by
  have hpow : (0 : ℚ) < 2 ^ (exponent - 1) := zpow_pos two_pos _
  have hnum : 0 < num := pos_of_quotient hy (by linarith)
  have hy' : (num : ℚ) / den = y * 2 * 2 ^ (exponent - 1) := by
    rw [hy, mul_assoc, ← zpow_one_add₀ two_ne_zero, add_sub_cancel]
  have hexponent : exponentFor num den = exponent - 1 :=
    exponentFor_eq_of_size hy' (by linarith) (.inl (by linarith)) (by linarith) (by omega)
  -- with one bit more it is nearly a power of two, and rounding carries it there
  have hscaled : scaled num den (exponent - 1) = twoPow 53 := by
    refine scaled_eq_of_near hden ?_
    rw [hy', mul_div_cancel_right₀ _ hpow.ne', cast_twoPow, abs_lt]
    constructor <;> linarith
  rw [ofQuotient_eq hnum, hexponent, hscaled, if_pos rfl, sub_add_cancel, if_neg (by omega)]

/-- A quotient is rounded to a datum if it is nearer to it, in proportion, than half a unit in the
    last of fifty-three bits. -/
theorem ofQuotient_eq_of_near (d : IsDatum mantissa exponent) (hden : 0 < den)
    (hnear : |(num : ℚ) / den - mantissa * 2 ^ exponent| * 2 ^ 54 < mantissa * 2 ^ exponent)
    (negative : Bool) :
    ofQuotient negative num den = ⟨negative, .finite mantissa exponent⟩ := by
  have hpow : (0 : ℚ) < 2 ^ exponent := zpow_pos two_pos _
  -- the quotient without the power of two of the datum
  obtain ⟨y, hy⟩ : ∃ y : ℚ, (num : ℚ) / den = y * 2 ^ exponent :=
    ⟨num / den / 2 ^ exponent, (div_mul_cancel₀ _ hpow.ne').symm⟩
  have hnear' : |y - mantissa| * 2 ^ 54 < mantissa := by
    rw [hy, ← sub_mul, abs_mul, abs_of_pos hpow, mul_right_comm] at hnear
    exact lt_of_mul_lt_mul_right hnear hpow.le
  have hpositive : (0 : ℚ) < mantissa := lt_of_le_of_lt (by positivity) hnear'
  have hmantissa : (mantissa : ℚ) + 1 ≤ 2 ^ 53 := by
    rw [← cast_twoPow]
    exact_mod_cast d.lt
  obtain ⟨hlow, hhigh⟩ := abs_lt.1 ((lt_div_iff₀ (by positivity)).2 hnear')
  by_cases hsize : 2 ^ 52 ≤ y ∨ exponent = minExponent
  · refine ofQuotient_eq_of_same_size d hden hy (by linarith) hsize (by linarith) ?_ negative
    rw [abs_lt]
    constructor <;> linarith
  · -- the datum is the power of two that the quotient is below
    obtain ⟨hbelow, hmin⟩ := not_or.1 hsize
    have hpower : mantissa = twoPow 52 := by
      refine le_antisymm ?_ (d.full.resolve_right hmin)
      rw [← Nat.lt_succ_iff, ← Nat.cast_lt (α := ℚ), Nat.cast_succ, cast_twoPow]
      linarith
    have hvalue : (mantissa : ℚ) = 2 ^ 52 := by rw [hpower, cast_twoPow]
    rw [hpower]
    exact ofQuotient_eq_of_below hden hy (lt_of_le_of_ne d.low (Ne.symm hmin)) d.high
      (not_le.1 hbelow) (by linarith) negative

/-! ## Expanding a quotient -/

theorem cast_mul_div_mul {c : Nat} (hc : 0 < c) (num den : Nat) :
    ((num * c : Nat) : ℚ) / (den * c : Nat) = num / den := by
  rw [Nat.cast_mul, Nat.cast_mul]
  exact mul_div_mul_right _ _ (Nat.cast_ne_zero.2 hc.ne')

theorem scaled_mul_mul {c : Nat} (hc : 0 < c) (num den : Nat) (shift : Int) :
    scaled (num * c) (den * c) shift = scaled num den shift := by
  unfold scaled
  rw [Nat.mul_right_comm den, Nat.mul_right_comm num, roundDiv_mul_mul hc, roundDiv_mul_mul hc]

theorem ofQuotient_mul_mul {c : Nat} (hc : 0 < c) (negative : Bool) (num : Nat) (hden : 0 < den) :
    ofQuotient negative (num * c) (den * c) = ofQuotient negative num den := by
  rcases Nat.eq_zero_or_pos num with rfl | hnum
  · rw [Nat.zero_mul]
    rfl
  · have hexponent : exponentFor (num * c) (den * c) = exponentFor num den := by
      rw [exponentFor_eq (Nat.mul_pos hnum hc) (Nat.mul_pos hden hc), exponentFor_eq hnum hden,
        cast_mul_div_mul hc]
    rw [ofQuotient_eq (Nat.mul_pos hnum hc), ofQuotient_eq hnum, hexponent, scaled_mul_mul hc]

theorem ofQuotient_sign (negative : Bool) (num den : Nat) :
    ofQuotient negative num den = ⟨negative, (ofQuotient false num den).magnitude⟩ := by
  unfold ofQuotient
  split
  · rfl
  · dsimp only
    split <;> split <;> rfl

end Binary64

end Rehearsal.Number
