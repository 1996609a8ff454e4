import Rehearsal.Number.Binary64

/-! # Decimal texts

  Three ways between decimal text and number:

  - `digitsOf n`, the decimal digits of a natural number, and `padded`, the same to a width;
  - `Binary64.fixed`, a fixed count of places after the point;
  - `shortestDigits`, the fewest digits that read back as the same datum, and
    `Scientific.positional`, those digits written without an exponent.
-/

namespace Rehearsal.Number

/-- The decimal digits of a natural number, most significant first. -/
def digitsOf (n : Nat) : List Char := Nat.toDigits 10 n

/-- The decimal digits of `n` with zeros in front up to `width` characters. -/
def padded (width n : Nat) : List Char :=
  let ds := digitsOf n
  List.replicate (width - ds.length) '0' ++ ds

def digitValue (c : Char) : Nat := c.toNat - '0'.toNat

/-- The number that a row of decimal digits stands for. -/
def ofDigits (ds : List Char) : Nat := ds.foldl (fun n c => n * 10 + digitValue c) 0

/-- The number that a row of digits stands for in the given base, the letters `a` to `f`
    being ten to fifteen in either case. -/
def ofDigitsIn (base : Nat) (ds : List Char) : Nat :=
  ds.foldl (fun n c => n * base + hexValue c) 0
where
  /-- The value of one digit character. -/
  hexValue (c : Char) : Nat :=
    if c.isDigit then c.toNat - '0'.toNat
    else if 'a' ≤ c ∧ c ≤ 'f' then c.toNat - 'a'.toNat + 10
    else c.toNat - 'A'.toNat + 10

/-- A count of units of `10 ^ (-places)`, written with a point. -/
def withPoint (places units : Nat) : List Char :=
  let ds := padded (places + 1) units
  let whole := ds.take (ds.length - places)
  if places = 0 then whole else whole ++ '.' :: ds.drop (ds.length - places)

/-- The sign of a printed number. -/
def sign (negative : Bool) : List Char := if negative then ['-'] else []

/-- A datum with a fixed count of places, rounded on its exact value, a tie going to the even
    digit. An undefined datum has no sign. -/
def Binary64.fixed (places : Nat) (x : Binary64) : String :=
  match x.magnitude with
  | .finite mantissa exponent =>
    let (num, den) := quotient mantissa exponent
    String.ofList (sign x.negative ++ withPoint places (roundDiv (num * tenPow places) den))
  | .infinite => String.ofList (sign x.negative ++ "inf".toList)
  | .undefined => "NaN"

/-! ### Shortest digits -/

/-- A decimal `digits * 10 ^ exponent`. -/
structure Scientific where
  digits : Nat
  /-- The power of ten that they are multiplied by. -/
  exponent : Int
  deriving DecidableEq, Repr

/-- The multiples of `10 ^ exponent` next to `num / den`, the nearer one first; of two
    equally near ones the even one is first. -/
def neighbours (num den : Nat) (exponent : Int) : List Scientific :=
  let (num, den) :=
    if 0 ≤ exponent then (num, den * tenPow exponent.toNat)
    else (num * tenPow (-exponent).toNat, den)
  let low := num / den
  let near := roundDiv num den
  let far := if near = low then low + 1 else low
  [⟨near, exponent⟩, ⟨far, exponent⟩]

/-- The first of the given decimal grids with a neighbour of the magnitude that reads back as
    it. -/
def shortestOn (mantissa : Nat) (exponent : Int) : List Int → Option Scientific
  | [] => none
  | grid :: finer =>
    let (num, den) := Binary64.quotient mantissa exponent
    let hit := (neighbours num den grid).find? fun s =>
      (Binary64.ofDecimal false s.digits s.exponent).magnitude == .finite mantissa exponent
    match hit with
    | some s => some s
    | none => shortestOn mantissa exponent finer

/-- The least `k` with `num / den < 10 ^ k`, within one. -/
def decimalTop (num den : Nat) : Int :=
  if den ≤ num then (Binary64.decimalLength (num / den) : Int)
  else -((Binary64.decimalLength (den / num) : Int) - 2)

/-- The fewest digits that read back as the magnitude, and of those the nearest. Grids are
    tried from coarse to fine; seventeen digits always suffice. -/
def shortestDigits (mantissa : Nat) (exponent : Int) : Scientific :=
  if mantissa = 0 then ⟨0, 0⟩
  else
    let (num, den) := Binary64.quotient mantissa exponent
    let top := decimalTop num den
    let grids := (List.range 20).map fun (k : Nat) => top + 1 - (k : Int)
    (shortestOn mantissa exponent grids).getD ⟨mantissa, 0⟩

/-- A decimal without an exponent: zeros fill the places up to the point, and no point is
    written after a whole number. -/
def Scientific.positional (s : Scientific) : List Char :=
  if 0 ≤ s.exponent then digitsOf (s.digits * tenPow s.exponent.toNat)
  else withPoint (-s.exponent).toNat s.digits

/-- Whether a decimal has nothing after its point. -/
def Scientific.isWhole (s : Scientific) : Bool := decide (0 ≤ s.exponent)

end Rehearsal.Number
