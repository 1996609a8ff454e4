/-! # Lenient decoding of UTF-8

  Bytes are read one at a time by a small automaton, `Decoder.step`, whose states follow the
  nine forms of a well-formed character. A byte that cannot continue the character in progress
  puts one replacement character in place of what was read of it, and is then read again as a
  first byte; so every longest broken beginning of a character, and every byte that can start
  none, is replaced once.
-/

namespace Rehearsal.Text

/-- Where the decoder stands between bytes. The states name the least and greatest byte that
    may come next and how many follow it. -/
inductive Decoder where
  | start
  /-- Inside a character: `owed + 1` bytes are missing, the next one lies between `low` and
      `high`, and `value` holds the bits read so far. -/
  | inside (owed : Nat) (low high : Nat) (value : Nat)
  deriving DecidableEq, Repr

namespace Decoder

def replacement : Char := '\uFFFD'

/-- The first byte of a character: what it writes, and the state after it. -/
def first (b : Nat) : List Char × Decoder :=
  if b ≤ 0x7F then ([Char.ofNat b], .start)
  else if 0xC2 ≤ b ∧ b ≤ 0xDF then ([], .inside 0 0x80 0xBF (b - 0xC0))
  else if b = 0xE0 then ([], .inside 1 0xA0 0xBF 0)
  else if b = 0xED then ([], .inside 1 0x80 0x9F 0xD)
  else if 0xE1 ≤ b ∧ b ≤ 0xEF then ([], .inside 1 0x80 0xBF (b - 0xE0))
  else if b = 0xF0 then ([], .inside 2 0x90 0xBF 0)
  else if 0xF1 ≤ b ∧ b ≤ 0xF3 then ([], .inside 2 0x80 0xBF (b - 0xF0))
  else if b = 0xF4 then ([], .inside 2 0x80 0x8F 4)
  else ([replacement], .start)

/-- One byte: what it writes, and the state after it. -/
def step (d : Decoder) (b : Nat) : List Char × Decoder :=
  match d with
  | .start => first b
  | .inside owed low high value =>
    if low ≤ b ∧ b ≤ high then
      let value := value * 64 + (b - 0x80)
      match owed with
      | 0 => ([Char.ofNat value], .start)
      | n + 1 => ([], .inside n 0x80 0xBF value)
    else
      let (written, next) := first b
      (replacement :: written, next)

/-- What the end of input writes. -/
def finish : Decoder → List Char
  | .start => []
  | .inside .. => [replacement]

/-- All that the bytes write from a state on, the end of input included. -/
def run (d : Decoder) : List UInt8 → List Char
  | [] => d.finish
  | b :: rest =>
    let (written, next) := d.step b.toNat
    written ++ run next rest

end Decoder

/-- The text of a row of bytes, with replacement characters where it is not well-formed. -/
def decodeUtf8 (bytes : List UInt8) : List Char := Decoder.run .start bytes

end Rehearsal.Text
