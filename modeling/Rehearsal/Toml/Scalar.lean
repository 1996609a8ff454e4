import Rehearsal.Toml.Lexical
import Rehearsal.Toml.Value

/-! # Single values of a TOML document

  Truth values, dates, times and numbers. Where one could be the beginning of another, the
  longer kind is tried first: a date before a number, a fraction before a whole number.
-/

namespace Rehearsal.Toml

open Reader

/-! ### Dates and times -/

/-- A number of two digits within bounds. -/
def twoDigits (low high : Nat) : Reader Nat := do
  let n ← digits 2
  if low ≤ n ∧ n ≤ high then pure n else failure

def isLeapYear (year : Nat) : Bool :=
  year % 4 == 0 && (year % 100 != 0 || year % 400 == 0)

def daysIn (year month : Nat) : Nat :=
  if month = 2 then (if isLeapYear year then 29 else 28)
  else if month = 4 ∨ month = 6 ∨ month = 9 ∨ month = 11 then 30
  else 31

/-- A day of the calendar. -/
def date : Reader Unit := do
  let year ← digits 4
  char '-'
  let month ← twoDigits 1 12
  char '-'
  let day ← twoDigits 1 31
  if day ≤ daysIn year month then pure () else failure

/-- A time of day; a minute may have a leap second. -/
def time : Reader Unit := do
  let _ ← twoDigits 0 23
  char ':'
  let _ ← twoDigits 0 59
  char ':'
  let _ ← twoDigits 0 60
  let _ ← optional (do char '.'; let _ ← run1 Char.isDigit)

/-- The distance of a time from universal time. -/
def offset : Reader Unit :=
  (do let _ ← one fun c => c == 'Z' || c == 'z') <|> (do
    let _ ← one fun c => c == '+' || c == '-'
    let _ ← twoDigits 0 23
    char ':'
    let _ ← twoDigits 0 59)

/-- A time after the day that it belongs to. -/
def timeOfDay : Reader Unit := do
  let _ ← one fun c => c == 'T' || c == 't' || c == ' '
  time
  let _ ← optional offset

/-- A date with or without a time, or a time alone. -/
def datetime : Reader Value := do
  let written ← taken ((do date; let _ ← optional timeOfDay) <|> time)
  pure (.datetime (String.ofList written))

/-! ### Numbers -/

/-- One or more digits, with single low lines between them. -/
def digitRun (p : Char → Bool) : Reader (List Char) := do
  let first ← one p
  let rest ← many (one p <|> (do char '_'; one p))
  pure (first :: rest)

/-- A sign, if there is one. The answer says whether it is negative. -/
def signed : Reader Bool := do
  match ← optional (one fun c => c == '+' || c == '-') with
  | some '-' => pure true
  | _ => pure false

/-- The digits of a decimal number; a leading zero stands alone. -/
def wholeDigits : Reader (List Char) :=
  (do
    let first ← one fun c => decide ('1' ≤ c) && decide (c ≤ '9')
    let rest ← many (one Char.isDigit <|> (do char '_'; one Char.isDigit))
    pure (first :: rest)) <|> (do
    let zero ← one (· == '0')
    pure [zero])

def fractionDigits : Reader (List Char) := do
  char '.'
  digitRun Char.isDigit

/-- A power of ten. -/
def exponent : Reader Int := do
  let _ ← one fun c => c == 'e' || c == 'E'
  let negative ← signed
  let ds ← digitRun Char.isDigit
  let n : Int := Number.ofDigits ds
  pure (if negative then -n else n)

/-- A number with a fraction, a power of ten, or both. One that is too large is refused when it
    is positive. -/
def decimal : Reader Value := do
  let negative ← signed
  let whole ← wholeDigits
  let (fraction, power) ← (do
      let power ← exponent
      pure ([], power)) <|> (do
      let fraction ← fractionDigits
      let power ← optional exponent
      pure (fraction, power.getD 0))
  let x := Number.Binary64.ofDecimal negative (Number.ofDigits (whole ++ fraction))
    (power - (fraction.length : Int))
  if x = ⟨false, .infinite⟩ then failure else pure (.float x)

/-- An infinity or a datum that is no number. -/
def specialFloat : Reader Value := do
  let negative ← signed
  let magnitude ←
    (do exactly ['i', 'n', 'f']; pure Number.Magnitude.infinite) <|>
    (do exactly ['n', 'a', 'n']; pure Number.Magnitude.undefined)
  pure (.float ⟨negative, magnitude⟩)

/-- Digits of a base, after the mark of the base. -/
def inBase (mark : Char) (base : Nat) (p : Char → Bool) : Reader Int := do
  char '0'
  char mark
  let ds ← digitRun p
  pure (Number.ofDigitsIn base ds : Int)

def wholeNumber : Reader Int := do
  let negative ← signed
  let n : Int := Number.ofDigits (← wholeDigits)
  pure (if negative then -n else n)

/-- A whole number of sixty-four bits. -/
def integer : Reader Value := do
  let n ← inBase 'x' 16 isHex
    <|> inBase 'o' 8 (fun c => decide ('0' ≤ c) && decide (c ≤ '7'))
    <|> inBase 'b' 2 (fun c => c == '0' || c == '1')
    <|> wholeNumber
  let bound : Int := Number.twoPow 63
  if -bound ≤ n ∧ n < bound then pure (.integer n) else failure

def boolean : Reader Value :=
  (do exactly ['t', 'r', 'u', 'e']; pure (.boolean true)) <|>
  (do exactly ['f', 'a', 'l', 's', 'e']; pure (.boolean false))

/-- A value that holds no others. -/
def scalar : Reader Value :=
  (Value.string <$> string) <|> boolean <|> datetime <|> decimal <|> specialFloat <|> integer

end Rehearsal.Toml
