/-! # Powers of two and ten

  Binary and decimal places are moved by multiplying with these.
-/

namespace Rehearsal.Number

def twoPow (n : Nat) : Nat := Nat.pow 2 n

def tenPow (n : Nat) : Nat := Nat.pow 10 n

theorem twoPow_pos (n : Nat) : 0 < twoPow n := Nat.pow_pos (by decide)

theorem tenPow_pos (n : Nat) : 0 < tenPow n := Nat.pow_pos (by decide)

theorem tenPow_succ (n : Nat) : tenPow (n + 1) = tenPow n * 10 := rfl

end Rehearsal.Number
