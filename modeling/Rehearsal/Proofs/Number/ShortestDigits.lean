import Rehearsal.Number.Decimal
import Rehearsal.Proofs.Number.Nearest

/-! # The shortest digits read back

  The digits that a datum is printed with are looked for on decimal grids from coarse to fine, and
  they are accepted only if they read back. So all depends on there being such digits on one of the
  grids. On the finest one the multiple next to the datum is so near that nothing else is nearer to
  it (`reads_back_of_fine`).

  Main statement: `shortestDigits_reads_back`.
-/

namespace Rehearsal.Number

namespace Binary64

/-! ## The length of a decimal -/

theorem decimalLength_le_iff {n k : Nat} (hk : 0 < k) : decimalLength n ≤ k ↔ n < 10 ^ k :=
  Nat.length_toDigits_le_iff (by decide) hk

theorem decimalLength_pos (n : Nat) : 0 < decimalLength n := Nat.length_toDigits_pos

/-- A number has as many digits as its size says. -/
theorem decimalLength_bounds {n : Nat} (h : 0 < n) :
    (10 : ℚ) ^ ((decimalLength n : Int) - 1) ≤ n ∧ (n : ℚ) < 10 ^ (decimalLength n : Int) := by
  have hpos := decimalLength_pos n
  constructor
  · have hlow : 10 ^ (decimalLength n - 1) ≤ n := by
      rcases Nat.eq_zero_or_pos (decimalLength n - 1) with hone | hmore
      · rw [hone]
        exact h
      -- were it smaller, it would have fewer digits
      · by_contra hlt
        have := (decimalLength_le_iff hmore).2 (Nat.lt_of_not_le hlt)
        omega
    rw [show (decimalLength n : Int) - 1 = ((decimalLength n - 1 : Nat) : Int) by omega,
      zpow_natCast]
    exact_mod_cast hlow
  · rw [zpow_natCast]
    exact_mod_cast (decimalLength_le_iff hpos).1 le_rfl

theorem decimalLength_mul_ten {n : Nat} (h : 0 < n) :
    decimalLength (n * 10) = decimalLength n + 1 := by
  have happend := Nat.toDigits_append_toDigits (b := 10) (by decide) h (d := 0) (by decide)
  have hlength := congrArg List.length happend
  rw [List.length_append, Nat.add_zero, Nat.mul_comm] at hlength
  exact hlength.symm

/-! ## Decimals as quotients -/

/-- A decimal of moderate size is rounded as a quotient. -/
theorem ofDecimal_eq {digits : Nat} (exponent : Int) (h : 0 < digits)
    (hlow : -330 ≤ (decimalLength digits : Int) + exponent)
    (hhigh : (decimalLength digits : Int) + exponent ≤ 320) (negative : Bool) :
    ∃ num den : Nat, 0 < den ∧ (num : ℚ) / den = digits * 10 ^ exponent ∧
      ofDecimal negative digits exponent = ofQuotient negative num den := by
  unfold ofDecimal
  dsimp only
  rw [if_neg (by omega), if_neg (by omega)]
  split
  · rename_i hexponent
    refine ⟨digits * tenPow exponent.toNat, 1, Nat.one_pos, ?_, rfl⟩
    rw [zpow_of_nonneg 10 hexponent, Nat.cast_one, div_one, Nat.cast_mul, cast_tenPow]
  · rename_i hexponent
    refine ⟨digits, tenPow (-exponent).toNat, tenPow_pos _, ?_, rfl⟩
    rw [zpow_of_not_nonneg 10 hexponent, cast_tenPow, div_eq_mul_inv]

/-- The sign is put in front of what is rounded. -/
theorem ofDecimal_sign (negative : Bool) (digits : Nat) (exponent : Int) :
    ofDecimal negative digits exponent =
      ⟨negative, (ofDecimal false digits exponent).magnitude⟩ := by
  unfold ofDecimal
  dsimp only
  split
  · rfl
  · split
    · rfl
    · split
      · exact ofQuotient_sign _ _ _
      · exact ofQuotient_sign _ _ _

theorem canonical_ofDecimal (negative : Bool) (digits : Nat) (exponent : Int) :
    (ofDecimal negative digits exponent).Canonical := by
  unfold ofDecimal
  dsimp only
  split
  · exact canonical_zero negative
  · split
    · trivial
    · split
      · exact canonical_ofQuotient _ _ Nat.one_pos
      · exact canonical_ofQuotient _ _ (tenPow_pos _)

/-- A zero at the end of a decimal makes no difference. -/
theorem ofDecimal_mul_ten (negative : Bool) (digits : Nat) (exponent : Int) :
    ofDecimal negative (digits * 10) (exponent - 1) = ofDecimal negative digits exponent := by
  rcases Nat.eq_zero_or_pos digits with rfl | h
  · rfl
  have htop : (decimalLength (digits * 10) : Int) + (exponent - 1) =
      decimalLength digits + exponent := by
    rw [decimalLength_mul_ten h]
    push_cast
    ring
  have hzero : digits * 10 = 0 ↔ digits = 0 := by omega
  unfold ofDecimal
  dsimp only
  rw [htop, if_congr (or_congr_left hzero) rfl rfl]
  congr 2
  -- up to zero the ten cancels against the denominator, above it is one of those in the numerator
  rcases lt_trichotomy exponent 0 with hneg | rfl | hpos
  · obtain ⟨k, hk⟩ : ∃ k : Nat, (-exponent).toNat = k ∧ (-(exponent - 1)).toNat = k + 1 :=
      ⟨(-exponent).toNat, rfl, by omega⟩
    rw [if_neg (by omega), if_neg (by omega), hk.1, hk.2, tenPow_succ,
      ofQuotient_mul_mul (by decide) negative digits (tenPow_pos k)]
  · rw [if_neg (by decide), if_pos le_rfl]
    exact (ofQuotient_mul_mul (show 0 < 10 by decide) negative digits Nat.one_pos).trans
      (congrArg (ofQuotient negative · 1) (Nat.mul_one digits).symm)
  · obtain ⟨k, hk⟩ : ∃ k : Nat, (exponent - 1).toNat = k ∧ exponent.toNat = k + 1 :=
      ⟨(exponent - 1).toNat, rfl, by omega⟩
    rw [if_pos (by omega), if_pos (by omega), hk.1, hk.2, tenPow_succ, Nat.mul_assoc,
      Nat.mul_comm 10]

theorem ofDecimal_mul_tenPow (negative : Bool) (digits : Nat) (exponent : Int) (k : Nat) :
    ofDecimal negative (digits * tenPow k) (exponent - k) = ofDecimal negative digits exponent := by
  induction k with
  | zero =>
    rw [Nat.cast_zero, sub_zero]
    exact congrArg (ofDecimal negative · exponent) (Nat.mul_one digits)
  | succ k ih =>
    rw [tenPow_succ, ← Nat.mul_assoc, Nat.cast_succ, ← sub_sub, ofDecimal_mul_ten, ih]

/-! ## The value of a datum -/

variable {mantissa : Nat} {exponent : Int}

/-- The quotient that a datum stands for. -/
theorem quotient_spec (mantissa : Nat) (exponent : Int) :
    0 < (quotient mantissa exponent).2 ∧
      ((quotient mantissa exponent).1 : ℚ) / (quotient mantissa exponent).2 =
        mantissa * 2 ^ exponent := by
  unfold quotient
  split
  · rename_i hexponent
    refine ⟨Nat.one_pos, ?_⟩
    rw [zpow_of_nonneg 2 hexponent, Nat.cast_one, div_one, Nat.cast_mul, cast_twoPow]
  · rename_i hexponent
    refine ⟨twoPow_pos _, ?_⟩
    rw [zpow_of_not_nonneg 2 hexponent, cast_twoPow, div_eq_mul_inv]

/-- The length of the whole part says how large a quotient is. -/
theorem decimalLength_quotient {num den : Nat} (h : den ≤ num) (hden : 0 < den) :
    (10 : ℚ) ^ ((decimalLength (num / den) : Int) - 1) ≤ num / den ∧
      (num : ℚ) / den < 10 ^ (decimalLength (num / den) : Int) := by
  have hden' : (0 : ℚ) < den := by exact_mod_cast hden
  have hwhole : 0 < num / den := Nat.div_pos h hden
  constructor
  · refine (decimalLength_bounds hwhole).1.trans ?_
    rw [le_div_iff₀ hden']
    exact_mod_cast Nat.div_mul_le_self num den
  · rw [zpow_natCast, div_lt_iff₀ hden']
    -- a length holds for all numbers up to the next whole one
    have hnext : num / den + 1 ≤ 10 ^ decimalLength (num / den) :=
      (decimalLength_le_iff (decimalLength_pos _)).1 le_rfl
    have hlt : num < (num / den + 1) * den := by
      rw [mul_comm]
      exact Nat.lt_mul_div_succ num hden
    exact_mod_cast hlt.trans_le (Nat.mul_le_mul_right den hnext)

/-- The place of the first digit is known within one. -/
theorem decimalTop_bounds {num den : Nat} (hnum : 0 < num) (hden : 0 < den) :
    (10 : ℚ) ^ (decimalTop num den - 2) ≤ num / den ∧
      (num : ℚ) / den < 10 ^ decimalTop num den := by
  have hten : (1 : ℚ) < 10 := by norm_num
  unfold decimalTop
  split
  · rename_i h
    obtain ⟨hlow, hhigh⟩ := decimalLength_quotient h hden
    exact ⟨(zpow_le_zpow_right₀ hten.le (by omega)).trans hlow, hhigh⟩
  · rename_i h
    obtain ⟨hlow, hhigh⟩ := decimalLength_quotient (Nat.le_of_not_le h) hnum
    have hpos : (0 : ℚ) < den / num := lt_of_lt_of_le (zpow_pos (by norm_num) _) hlow
    -- the quotient is the inverse of one whose whole part is known
    rw [← inv_div (den : ℚ) num]
    constructor
    · rw [show -((decimalLength (den / num) : Int) - 2) - 2 = -(decimalLength (den / num) : Int) by
        ring, zpow_neg]
      exact inv_anti₀ hpos hhigh.le
    · refine lt_of_le_of_lt (inv_anti₀ (zpow_pos (by norm_num) _) hlow) ?_
      rw [← zpow_neg]
      exact zpow_lt_zpow_right₀ hten (by omega)

/-- A datum other than zero lies within the range of the format. -/
theorem value_bounds (d : IsDatum mantissa exponent) (h : 0 < mantissa) :
    (10 : ℚ) ^ (-330 : Int) ≤ mantissa * 2 ^ exponent ∧
      (mantissa : ℚ) * 2 ^ exponent < 10 ^ (312 : Int) := by
  have hone : (1 : ℚ) ≤ mantissa := by exact_mod_cast h
  have hmantissa : (mantissa : ℚ) < 2 ^ (53 : Int) := by
    rw [zpow_ofNat, ← cast_twoPow]
    exact_mod_cast d.lt
  constructor
  -- by powers that can be compared: `10 ^ -33` is just below `2 ^ -108`
  · calc (10 : ℚ) ^ (-330 : Int)
        = ((10 : ℚ) ^ (-33 : Int)) ^ (10 : Int) := by rw [← zpow_mul]; rfl
      _ ≤ ((2 : ℚ) ^ (-108 : Int)) ^ (10 : Int) := by
        refine zpow_le_zpow_left₀ (by decide) (by positivity) ?_
        norm_num
      _ = 2 ^ (-1080 : Int) := by rw [← zpow_mul]; rfl
      _ ≤ 2 ^ exponent := zpow_le_zpow_right₀ one_le_two (le_trans (by decide) d.low)
      _ ≤ mantissa * 2 ^ exponent := le_mul_of_one_le_left (zpow_pos two_pos _).le hone
  -- and `2 ^ 128` is just below `10 ^ 39`
  · calc (mantissa : ℚ) * 2 ^ exponent
        < 2 ^ (53 : Int) * 2 ^ exponent := mul_lt_mul_of_pos_right hmantissa (zpow_pos two_pos _)
      _ ≤ 2 ^ (53 : Int) * 2 ^ (971 : Int) := by
        refine mul_le_mul_of_nonneg_left ?_ (by positivity)
        exact zpow_le_zpow_right₀ one_le_two d.high
      _ = ((2 : ℚ) ^ (128 : Int)) ^ (8 : Int) := by
        rw [← zpow_add₀ two_ne_zero, ← zpow_mul]
        rfl
      _ ≤ ((10 : ℚ) ^ (39 : Int)) ^ (8 : Int) := by
        refine zpow_le_zpow_left₀ (by decide) (by positivity) ?_
        norm_num
      _ = 10 ^ (312 : Int) := by rw [← zpow_mul]; rfl

end Binary64

/-! ## The finest grid -/

open Binary64

variable {mantissa : Nat} {exponent : Int}

/-- The nearer of two neighbours is at most half the distance between them away. -/
theorem neighbours_head (num : Nat) {den : Nat} (hden : 0 < den) (grid : Int) :
    ∃ near, (neighbours num den grid).head? = some ⟨near, grid⟩ ∧
      |(num : ℚ) / den / 10 ^ grid - near| ≤ 1 / 2 := by
  by_cases hgrid : 0 ≤ grid
  · have hnear := roundDiv_near num (Nat.mul_pos hden (tenPow_pos grid.toNat))
    rw [Nat.cast_mul, cast_tenPow, ← div_div, ← zpow_of_nonneg 10 hgrid] at hnear
    refine ⟨_, ?_, hnear⟩
    simp only [neighbours, if_pos hgrid, List.head?_cons]
  · have hnear := roundDiv_near (num * tenPow (-grid).toNat) hden
    rw [Nat.cast_mul, cast_tenPow, mul_div_right_comm, ← div_inv_eq_mul,
      ← zpow_of_not_nonneg 10 hgrid] at hnear
    refine ⟨_, ?_, hnear⟩
    simp only [neighbours, if_neg hgrid, List.head?_cons]

/-- On a fine grid the neighbour reads back. -/
theorem reads_back_of_fine (d : IsDatum mantissa exponent) (h : 0 < mantissa) {grid : Int}
    {near : Nat}
    (hfine : (10 : ℚ) ^ (grid + 16) ≤ mantissa * 2 ^ exponent)
    (hcoarse : (mantissa : ℚ) * 2 ^ exponent < 10 ^ (grid + 18))
    (hnear : |(mantissa : ℚ) * 2 ^ exponent / 10 ^ grid - near| ≤ 1 / 2) :
    ofDecimal false near grid = ⟨false, .finite mantissa exponent⟩ := by
  have hten : (1 : ℚ) < 10 := by norm_num
  have hpow : (0 : ℚ) < 10 ^ grid := zpow_pos (by norm_num) _
  obtain ⟨hlow, hhigh⟩ := value_bounds d h
  have hgrid_low : -330 < grid + 18 := (zpow_lt_zpow_iff_right₀ hten).1 (hlow.trans_lt hcoarse)
  have hgrid_high : grid + 16 < 312 := (zpow_lt_zpow_iff_right₀ hten).1 (hfine.trans_lt hhigh)
  -- the datum in units of the grid
  obtain ⟨y, hy⟩ : ∃ y : ℚ, (mantissa : ℚ) * 2 ^ exponent = y * 10 ^ grid :=
    ⟨mantissa * 2 ^ exponent / 10 ^ grid, (div_mul_cancel₀ _ hpow.ne').symm⟩
  rw [hy, zpow_add₀ (by norm_num), mul_comm] at hfine
  rw [hy, zpow_add₀ (by norm_num), mul_comm (10 ^ grid)] at hcoarse
  rw [hy, mul_div_cancel_right₀ _ hpow.ne', abs_le] at hnear
  have hfine : (10 : ℚ) ^ (16 : Int) ≤ y := le_of_mul_le_mul_right hfine hpow
  have hcoarse : y < (10 : ℚ) ^ (18 : Int) := lt_of_mul_lt_mul_right hcoarse hpow.le
  norm_num at hfine hcoarse
  have hnear_low : 10 ^ 16 ≤ near := by
    rw [← Nat.lt_succ_iff, ← Nat.cast_lt (α := ℚ)]
    push_cast
    linarith
  have hnear_high : near < 10 ^ 19 := by
    rw [← Nat.cast_lt (α := ℚ)]
    push_cast
    linarith
  have hlength_low : ¬ decimalLength near ≤ 16 := by
    rw [decimalLength_le_iff (by decide)]
    omega
  have hlength_high : decimalLength near ≤ 19 := (decimalLength_le_iff (by decide)).2 hnear_high
  have hpositive : 0 < near := by omega
  obtain ⟨num, den, hden, hvalue, hquotient⟩ :=
    ofDecimal_eq grid hpositive (by omega) (by omega) false
  rw [hquotient]
  refine ofQuotient_eq_of_near d hden ?_ false
  -- half a unit of the grid is less than what rounding allows for
  rw [hvalue, hy, ← sub_mul, abs_mul, abs_of_pos hpow, mul_right_comm]
  refine mul_lt_mul_of_pos_right ?_ hpow
  rw [← lt_div_iff₀ (by positivity), abs_lt]
  constructor <;> linarith

/-! ## The search -/

def ReadsBack (s : Scientific) (mantissa : Nat) (exponent : Int) : Prop :=
  (ofDecimal false s.digits s.exponent).magnitude = .finite mantissa exponent

/-- A search that meets a neighbour that reads back ends with a decimal that does. -/
theorem shortestOn_reads_back {grids : List Int}
    (h : ∃ grid ∈ grids, ∃ s ∈ neighbours (quotient mantissa exponent).1
      (quotient mantissa exponent).2 grid, ReadsBack s mantissa exponent) :
    ∃ s, shortestOn mantissa exponent grids = some s ∧ ReadsBack s mantissa exponent := by
  induction grids with
  | nil =>
    obtain ⟨grid, hgrid, -⟩ := h
    cases hgrid
  | cons grid finer ih =>
    rw [shortestOn]
    dsimp only
    split
    · rename_i s hhit
      have hback := List.find?_some hhit
      exact ⟨s, rfl, eq_of_beq hback⟩
    -- nothing on this grid reads back, so the one that does is on a finer grid
    · rename_i hmiss
      rw [List.find?_eq_none] at hmiss
      obtain ⟨other, hother, s, hs, hback⟩ := h
      rcases List.mem_cons.1 hother with rfl | hother
      · exact absurd (beq_iff_eq.2 hback) (hmiss s hs)
      · exact ih ⟨other, hother, s, hs, hback⟩

/-- **The shortest digits read back**: the digits that a finite datum is printed with are read as
    the same magnitude again. -/
theorem shortestDigits_reads_back (d : IsDatum mantissa exponent) :
    ReadsBack (shortestDigits mantissa exponent) mantissa exponent := by
  rcases Nat.eq_zero_or_pos mantissa with rfl | h
  · rcases d.full with hfull | rfl
    · exact absurd hfull (by decide)
    · rfl
  obtain ⟨hden, hvalue⟩ := quotient_spec mantissa exponent
  have hnum : 0 < (quotient mantissa exponent).1 := pos_of_quotient hvalue (Nat.cast_pos.2 h)
  obtain ⟨hlow, hhigh⟩ := decimalTop_bounds hnum hden
  rw [hvalue] at hlow hhigh
  unfold shortestDigits
  rw [if_neg h.ne']
  dsimp only
  generalize htop : decimalTop (quotient mantissa exponent).1 (quotient mantissa exponent).2 = top
    at *
  -- the last grid is fine enough
  obtain ⟨near, hhead, hnear⟩ := neighbours_head (quotient mantissa exponent).1 hden (top + 1 - 19)
  rw [hvalue] at hnear
  have hback := reads_back_of_fine d h (by rwa [show top + 1 - 19 + 16 = top - 2 by ring])
    (by rwa [show top + 1 - 19 + 18 = top by ring]) hnear
  have hgrid : top + 1 - 19 ∈ (List.range 20).map fun (k : Nat) => top + 1 - (k : Int) :=
    List.mem_map.2 ⟨19, by decide, rfl⟩
  obtain ⟨s, hs, hreads⟩ := shortestOn_reads_back
    ⟨_, hgrid, _, List.mem_of_mem_head? hhead, congrArg Binary64.magnitude hback⟩
  rw [hs]
  exact hreads

end Rehearsal.Number
