import Rehearsal.Number.Decimal

/-! # Time

  Durations and instants are whole nanoseconds. An instant is the duration since the clock
  began, so the time between two instants is their difference, which is zero when they come
  in the wrong order.

  The clock is an idealised one: it runs as far as one likes, and to add a duration to an instant
  always gives an instant. A real clock has an end, and gives up where an instant lies beyond it.
-/

namespace Rehearsal

/-- A length of time in nanoseconds. -/
abbrev Duration := Nat

/-- A point in time, in nanoseconds since the clock began. -/
abbrev Instant := Nat

namespace Duration

def nanosPerSecond : Nat := 1000000000

def ofSeconds (n : Nat) : Duration := n * nanosPerSecond

def ofMillis (n : Nat) : Duration := n * 1000000

def wholeSeconds (d : Duration) : Nat := d / nanosPerSecond

def nanosOfSecond (d : Duration) : Nat := d % nanosPerSecond

/-- The whole nanoseconds nearest to a floating-point count of seconds, taken at its exact
    value; a tie goes to the even count. A negative count gives no time at all. -/
def ofFloatSeconds (seconds : Float) : Duration :=
  let x := Number.Binary64.ofFloat seconds
  match x.negative, x.magnitude with
  | false, .finite mantissa exponent =>
    let (num, den) := Number.Binary64.quotient mantissa exponent
    Number.roundDiv (num * nanosPerSecond) den
  | _, _ => 0

/-- A duration as a floating-point count of seconds. -/
def toFloatSeconds (d : Duration) : Float :=
  d.wholeSeconds.toFloat + d.nanosOfSecond.toFloat / nanosPerSecond.toFloat

/-- A duration in seconds with all nine decimal places. -/
def seconds (d : Duration) : String := String.ofList (Number.withPoint 9 d)

/-- So many units of `10 ^ (-places)` without the zeros at the end of the fraction. -/
def trimmed (places units : Nat) : List Char :=
  let whole := Number.digitsOf (units / Number.tenPow places)
  let rest := units % Number.tenPow places
  let fraction := (Number.padded places rest).reverse.dropWhile (· == '0')
  if fraction.isEmpty || rest == 0 then whole else whole ++ '.' :: fraction.reverse

/-- A duration in the largest of seconds, milliseconds, microseconds and nanoseconds that
    makes it at least one, without zeros at the end. -/
def brief (d : Duration) : String :=
  if nanosPerSecond ≤ d then String.ofList (trimmed 9 d) ++ "s"
  else if 1000000 ≤ d then String.ofList (trimmed 6 d) ++ "ms"
  else if 1000 ≤ d then String.ofList (trimmed 3 d) ++ "µs"
  else String.ofList (trimmed 0 d) ++ "ns"

end Duration

end Rehearsal
