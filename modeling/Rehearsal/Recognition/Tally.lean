/-! # Counting

  A tally lists what was counted in increasing order, each thing once and with its count. A thing
  that was never counted is not in it.
-/

namespace Rehearsal

/-- Things with their counts, in increasing order of the things. -/
abbrev Tally (α : Type) := List (α × Nat)

namespace Tally

variable {α : Type}

/-- The things that were counted. -/
def things (t : Tally α) : List α := t.map (·.1)

variable [LT α] [DecidableLT α]

/-- A thing counted once more. -/
def add (x : α) : Tally α → Tally α
  | [] => [(x, 1)]
  | (y, n) :: rest =>
    if x < y then (x, 1) :: (y, n) :: rest
    else if y < x then (y, n) :: add x rest
    else (y, n + 1) :: rest

/-- Some things counted one after another. -/
def addAll (t : Tally α) (xs : List α) : Tally α := xs.foldl (fun t x => t.add x) t

def of (xs : List α) : Tally α := addAll [] xs

end Tally

/-- The distinct elements of a list, in increasing order. -/
def distinct {α : Type} [LT α] [DecidableLT α] (xs : List α) : List α := (Tally.of xs).things

end Rehearsal
