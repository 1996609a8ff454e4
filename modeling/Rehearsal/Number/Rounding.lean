/-! # Rounding a quotient

  Quotients of natural numbers are rounded to the nearest natural number, and a quotient
  halfway between two of them goes to the even one. Every conversion of this library that
  rounds (seconds to nanoseconds, decimals to binary, binary to decimals) goes through
  `roundDiv`, so the rule is stated once.
-/

namespace Rehearsal.Number

/-- The natural number nearest to `num / den`, a tie going to the even neighbour. -/
def roundDiv (num den : Nat) : Nat :=
  let quotient := num / den
  let rest := num % den
  if 2 * rest < den then quotient
  else if den < 2 * rest then quotient + 1
  else if quotient % 2 = 0 then quotient
  else quotient + 1

end Rehearsal.Number
