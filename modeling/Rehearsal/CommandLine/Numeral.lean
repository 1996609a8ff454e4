import Rehearsal.Number.Decimal

/-! # Numbers on the command line

  A count is a whole number with an optional sign. A probability is written with digits, an
  optional point with digits on at least one side, and an optional power of ten, or is named as
  infinite or undefined.
-/

namespace Rehearsal.CommandLine

/-- A text without the sign in front, and whether that sign is a minus. -/
def splitSign : List Char → Bool × List Char
  | '-' :: cs => (true, cs)
  | '+' :: cs => (false, cs)
  | cs => (false, cs)

/-- The number that a row of decimal digits stands for; the row must not be empty. -/
def digits? (cs : List Char) : Option Nat :=
  if cs.isEmpty || !cs.all Char.isDigit then none else some (Number.ofDigits cs)

def wholeNumber? (cs : List Char) : Option Int :=
  let (negative, body) := splitSign cs
  (digits? body).map fun (n : Nat) => if negative then -(n : Int) else (n : Int)

/-- A whole number between zero and a greatest count. -/
def count? (greatest : Nat) (cs : List Char) : Option Nat :=
  (wholeNumber? cs).bind fun n => if 0 ≤ n ∧ n ≤ (greatest : Int) then some n.toNat else none

def namedMagnitude? (cs : List Char) : Option Number.Magnitude :=
  let name := String.ofList (cs.map Char.toLower)
  if name = "inf" ∨ name = "infinity" then some .infinite
  else if name = "nan" then some .undefined
  else none

/-- The power of ten after the digits of a number, if there is one. -/
def powerOfTen? : List Char → Option Int
  | [] => some 0
  | c :: cs => if c = 'e' ∨ c = 'E' then wholeNumber? cs else none

/-- The digits after the point of a number, and what follows them. -/
def fraction : List Char → List Char × List Char
  | '.' :: cs => (cs.takeWhile Char.isDigit, cs.dropWhile Char.isDigit)
  | cs => ([], cs)

/-- The number written with digits. -/
def decimal? (negative : Bool) (cs : List Char) : Option Number.Binary64 :=
  let whole := cs.takeWhile Char.isDigit
  let (places, rest) := fraction (cs.dropWhile Char.isDigit)
  if whole.isEmpty && places.isEmpty then none
  else (powerOfTen? rest).map fun power =>
    .ofDecimal negative (Number.ofDigits (whole ++ places)) (power - (places.length : Int))

/-- A floating-point number. -/
def number? (cs : List Char) : Option Number.Binary64 :=
  let (negative, body) := splitSign cs
  match namedMagnitude? body with
  | some magnitude => some ⟨negative, magnitude⟩
  | none => decimal? negative body

end Rehearsal.CommandLine
