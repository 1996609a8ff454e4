import Rehearsal.Number.Power
import Rehearsal.Number.Rounding

/-! # Sixty-four bit binary numbers

  A `Binary64` is a floating-point datum taken apart into a sign and a magnitude, so that it
  can be printed, read and rounded with natural numbers only. A finite magnitude is
  `mantissa * 2 ^ exponent` with a mantissa below `2 ^ 53` and an exponent between `-1074`
  and `971`.

  The sign is kept also for zero, for the infinities and for the undefined datum.
-/

namespace Rehearsal.Number

/-- The size of a datum, its sign left out. -/
inductive Magnitude where
  /-- The number `mantissa * 2 ^ exponent`. -/
  | finite (mantissa : Nat) (exponent : Int)
  | infinite
  | undefined
  deriving DecidableEq, Repr

/-- A floating-point datum of sixty-four bits. -/
structure Binary64 where
  /-- The sign; set also on a negative zero. -/
  negative : Bool
  magnitude : Magnitude
  deriving DecidableEq, Repr

namespace Binary64

/-- The least exponent of a finite magnitude. -/
def minExponent : Int := -1074

/-- The greatest exponent of a finite magnitude. -/
def maxExponent : Int := 971

def zero (negative : Bool) : Binary64 := ⟨negative, .finite 0 minExponent⟩

/-- `num * 2 ^ (-shift) / den`, rounded to the nearest natural number. -/
def scaled (num den : Nat) (shift : Int) : Nat :=
  if 0 ≤ shift then roundDiv num (den * twoPow shift.toNat)
  else roundDiv (num * twoPow (-shift).toNat) den

/-- The exponent at which `num / den` has a mantissa of fifty-three bits, but no smaller than
    the least one. -/
def exponentFor (num den : Nat) : Int :=
  let guess : Int := (num.log2 : Int) - (den.log2 : Int) - 52
  let short := if 0 ≤ guess then num < den * twoPow guess.toNat * twoPow 52
    else num * twoPow (-guess).toNat < den * twoPow 52
  max minExponent (if short then guess - 1 else guess)

/-- The datum nearest to `num / den`, a tie going to the even mantissa; too large a quotient
    gives infinity. -/
def ofQuotient (negative : Bool) (num den : Nat) : Binary64 :=
  if num = 0 then zero negative
  else
    let exponent := exponentFor num den
    let mantissa := scaled num den exponent
    let (mantissa, exponent) :=
      if mantissa = twoPow 53 then (twoPow 52, exponent + 1) else (mantissa, exponent)
    if maxExponent < exponent then ⟨negative, .infinite⟩
    else ⟨negative, .finite mantissa exponent⟩

def decimalLength (n : Nat) : Nat := (Nat.toDigits 10 n).length

/-- The datum nearest to `digits * 10 ^ exponent`. Decimals beyond the range of the format
    are answered from their length, without computing the power. -/
def ofDecimal (negative : Bool) (digits : Nat) (exponent : Int) : Binary64 :=
  let top := (decimalLength digits : Int) + exponent
  if digits = 0 ∨ top < -330 then zero negative
  else if 320 < top then ⟨negative, .infinite⟩
  else if 0 ≤ exponent then ofQuotient negative (digits * tenPow exponent.toNat) 1
  else ofQuotient negative digits (tenPow (-exponent).toNat)

/-- A natural number as a datum. -/
def ofNat (n : Nat) : Binary64 := ofQuotient false n 1

def ofInt (n : Int) : Binary64 := ofQuotient (decide (n < 0)) n.natAbs 1

/-- The datum that a machine float holds. -/
def ofFloat (f : Float) : Binary64 :=
  let bits : Nat := f.toBits.toNat
  let negative := decide (twoPow 63 ≤ bits)
  let biased : Nat := bits / twoPow 52 % 2048
  let fraction : Nat := bits % twoPow 52
  if biased = 2047 then ⟨negative, if fraction = 0 then .infinite else .undefined⟩
  else if biased = 0 then ⟨negative, .finite fraction minExponent⟩
  else ⟨negative, .finite (fraction + twoPow 52) ((biased : Int) - 1075)⟩

/-- The machine float that holds a datum. -/
def toFloat (x : Binary64) : Float :=
  let sign : Nat := if x.negative then twoPow 63 else 0
  let rest : Nat := match x.magnitude with
    | .finite mantissa exponent =>
      if mantissa < twoPow 52 then mantissa
      else (exponent + 1075).toNat * twoPow 52 + (mantissa - twoPow 52)
    | .infinite => 2047 * twoPow 52
    | .undefined => 2047 * twoPow 52 + twoPow 51
  Float.ofBits (UInt64.ofNat (sign + rest))

/-- Whether a finite datum is zero. -/
def isZero (x : Binary64) : Bool :=
  match x.magnitude with
  | .finite mantissa _ => mantissa == 0
  | _ => false

/-- Whether the datum is not a number. -/
def isUndefined (x : Binary64) : Bool := x.magnitude == .undefined

/-- Equality of numbers: the two zeros are equal, and the undefined datum differs from
    everything. -/
def same (x y : Binary64) : Bool :=
  !x.isUndefined && !y.isUndefined && ((x.isZero && y.isZero) || x == y)

/-- The quotient of natural numbers that a finite magnitude stands for. -/
def quotient (mantissa : Nat) (exponent : Int) : Nat × Nat :=
  if 0 ≤ exponent then (mantissa * twoPow exponent.toNat, 1)
  else (mantissa, twoPow (-exponent).toNat)

/-- A number brought between zero and one; the undefined datum stays as it is. -/
def clampUnit (x : Binary64) : Binary64 :=
  match x.magnitude with
  | .finite mantissa exponent =>
    if x.negative then zero (mantissa == 0)
    else
      let (num, den) := quotient mantissa exponent
      if den < num then ofNat 1 else x
  | .infinite => if x.negative then zero false else ofNat 1
  | .undefined => x

end Binary64

end Rehearsal.Number
