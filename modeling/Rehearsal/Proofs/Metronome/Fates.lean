import Mathlib.Data.List.Basic
import Rehearsal.Metronome.TickQueue

/-! # What becomes of a tick

  A queue of ticks sees three kinds of events: the tick loop gives a tick, the waiting ticks are
  read, the listener goes away. Every tick that is given meets with one of three fates: it is
  read, it still waits, or it is lost.

  - A tick that finds the queue full or nobody listening is lost at once (`loses_iff`).
  - A tick that finds a place waits; of reading and going away the first to come decides what
    becomes of it (`fateOfWaiting`).

  Main statements: `reads_eq` and `waiting_after`, what is read and what waits are the ticks with
  that fate, in the order in which they were given; `fates_split`, the fate of a tick in terms of
  what came before it and what comes after.
-/

namespace Rehearsal

/-! ## Events -/

/-- What can happen to a queue of ticks. -/
inductive QueueEvent where
  | given (tick : Tick)
  | read
  | deafened
  deriving DecidableEq, Repr

/-- What becomes of a tick. -/
inductive Fate where
  | read
  | waiting
  | lost
  deriving DecidableEq, Repr

namespace QueueEvent

/-- The tick that an event gives, if it gives one. -/
def tick? : QueueEvent → Option Tick
  | .given tick => some tick
  | .read | .deafened => none

/-- The ticks that are given in the course of some events. -/
def ticks (events : List QueueEvent) : List Tick := events.filterMap tick?

/-- What becomes of a tick that waits while the events happen. -/
def fateOfWaiting : List QueueEvent → Fate
  | [] => .waiting
  | .given _ :: later => fateOfWaiting later
  | .read :: _ => .read
  | .deafened :: _ => .lost

@[simp] theorem ticks_nil : ticks [] = [] := rfl

@[simp] theorem ticks_append (front back : List QueueEvent) :
    ticks (front ++ back) = ticks front ++ ticks back := List.filterMap_append

@[simp] theorem ticks_map_given (given : List Tick) : ticks (given.map .given) = given := by
  unfold ticks
  rw [List.filterMap_map]
  exact List.filterMap_some

/-- The listener goes away before the ticks that wait are read. -/
theorem fateOfWaiting_eq_lost_iff {later : List QueueEvent} :
    fateOfWaiting later = .lost ↔
      ∃ mid rest, later = mid ++ .deafened :: rest ∧ .read ∉ mid := by
  induction later with
  | nil => simp [fateOfWaiting]
  | cons e later ih =>
    cases e with
    | given tick =>
      rw [fateOfWaiting, ih]
      constructor
      · intro h
        obtain ⟨mid, rest, hsplit, hmid⟩ := h
        exact ⟨.given tick :: mid, rest, by rw [hsplit]; rfl, by simpa using hmid⟩
      · intro h
        obtain ⟨mid, rest, hsplit, hmid⟩ := h
        -- the tick is not what goes away, so it comes before
        cases mid with
        | nil => cases hsplit
        | cons first mid =>
          exact ⟨mid, rest, (List.cons.inj hsplit).2, fun h => hmid (List.mem_cons_of_mem _ h)⟩
    | read =>
      constructor
      · intro h
        cases h
      · intro h
        obtain ⟨mid, rest, hsplit, hmid⟩ := h
        cases mid with
        | nil => cases hsplit
        | cons first mid =>
          obtain ⟨rfl, -⟩ := List.cons.inj hsplit
          exact absurd List.mem_cons_self hmid
    | deafened => exact ⟨fun _ => ⟨[], later, rfl, by simp⟩, fun _ => rfl⟩

/-- A tick goes on waiting as long as nobody reads and nobody goes away. -/
theorem fateOfWaiting_eq_waiting_iff {later : List QueueEvent} :
    fateOfWaiting later = .waiting ↔ .read ∉ later ∧ .deafened ∉ later := by
  induction later with
  | nil => simp [fateOfWaiting]
  | cons e later ih =>
    cases e with
    | given tick => simp [fateOfWaiting, ih]
    | read => simp [fateOfWaiting]
    | deafened => simp [fateOfWaiting]

end QueueEvent

/-! ## Ticks and their fates -/

/-- The ticks with the given fate, in their order. -/
def Fate.among (fate : Fate) (fates : List (Tick × Fate)) : List Tick :=
  (fates.filter (·.2 == fate)).map Prod.fst

@[simp] theorem Fate.among_nil (fate : Fate) : fate.among [] = [] := rfl

theorem Fate.among_cons (fate other : Fate) (tick : Tick) (fates : List (Tick × Fate)) :
    fate.among ((tick, other) :: fates) =
      if other = fate then tick :: fate.among fates else fate.among fates := by
  by_cases h : other = fate <;> simp [among, h]

theorem Fate.among_sublist (fate : Fate) (fates : List (Tick × Fate)) :
    (fate.among fates).Sublist (fates.map Prod.fst) :=
  List.filter_sublist.map Prod.fst

namespace TickQueue

open QueueEvent

def undergo (q : TickQueue) : QueueEvent → TickQueue
  | .given tick => q.offer tick
  | .read => q.drain.1
  | .deafened => q.disconnect

def after (q : TickQueue) (events : List QueueEvent) : TickQueue := events.foldl undergo q

def readAt (q : TickQueue) : QueueEvent → List Tick
  | .read => q.drain.2
  | .given _ | .deafened => []

/-- The ticks that are read in the course of some events. -/
def reads (q : TickQueue) : List QueueEvent → List Tick
  | [] => []
  | e :: later => q.readAt e ++ reads (q.undergo e) later

/-- What becomes of a tick that is given now, in the course of later events. -/
def fateOf (q : TickQueue) (later : List QueueEvent) : Fate :=
  if q.loses then .lost else fateOfWaiting later

/-- The ticks that are given in the course of some events, each with what becomes of it. -/
def fates (q : TickQueue) : List QueueEvent → List (Tick × Fate)
  | [] => []
  | .given tick :: later => (tick, q.fateOf later) :: fates (q.offer tick) later
  | .read :: later => fates q.drain.1 later
  | .deafened :: later => fates q.disconnect later

variable {q : TickQueue}

@[simp] theorem after_nil (q : TickQueue) : q.after [] = q := rfl

@[simp] theorem after_cons (q : TickQueue) (e : QueueEvent) (later : List QueueEvent) :
    q.after (e :: later) = (q.undergo e).after later := rfl

theorem after_append (q : TickQueue) (front back : List QueueEvent) :
    q.after (front ++ back) = (q.after front).after back := List.foldl_append

@[simp] theorem reads_nil (q : TickQueue) : q.reads [] = [] := rfl

@[simp] theorem reads_cons (q : TickQueue) (e : QueueEvent) (later : List QueueEvent) :
    q.reads (e :: later) = q.readAt e ++ (q.undergo e).reads later := rfl

theorem reads_append (q : TickQueue) (front back : List QueueEvent) :
    q.reads (front ++ back) = q.reads front ++ (q.after front).reads back := by
  induction front generalizing q with
  | nil => rfl
  | cons e front ih => simp [ih]

/-! ## The queue -/

theorem offer_of_loses (h : q.loses = true) (tick : Tick) : q.offer tick = q := by
  unfold offer
  rw [if_pos h]

theorem offer_of_takes (h : q.loses = false) (tick : Tick) :
    q.offer tick = { q with waiting := q.waiting ++ [tick] } := by
  unfold offer
  rw [h]
  rfl

/-- A tick is lost at once if the queue is full or nobody listens. -/
theorem loses_iff : q.loses = true ↔ capacity ≤ q.waiting.length ∨ q.connected = false := by
  simp [loses, or_comm]

/-- Somebody listens as long as the listener has not gone away. -/
theorem connected_after (q : TickQueue) (events : List QueueEvent) :
    (q.after events).connected = true ↔ q.connected = true ∧ .deafened ∉ events := by
  induction events generalizing q with
  | nil => simp
  | cons e later ih =>
    rw [after_cons, ih]
    cases e with
    | given tick =>
      -- a tick changes what waits, not who listens
      have hoffer : (q.offer tick).connected = q.connected := by
        unfold offer
        split <;> rfl
      simp [undergo, hoffer]
    | read => simp [undergo, drain]
    | deafened => simp [undergo, disconnect]

theorem length_after_le (h : q.waiting.length ≤ capacity) (events : List QueueEvent) :
    (q.after events).waiting.length ≤ capacity := by
  induction events generalizing q with
  | nil => exact h
  | cons e later ih =>
    apply ih
    cases e with
    | given tick => exact q.length_offer_le tick h
    | read => exact Nat.zero_le capacity
    | deafened => exact Nat.zero_le capacity

/-! ## Fates -/

/-- Every tick that is given has a fate, in the order in which the ticks are given. -/
theorem fates_ticks (q : TickQueue) (events : List QueueEvent) :
    (q.fates events).map Prod.fst = ticks events := by
  induction events generalizing q with
  | nil => rfl
  | cons e later ih =>
    cases e with
    | given tick => exact congrArg (tick :: ·) (ih (q.offer tick))
    | read => exact ih q.drain.1
    | deafened => exact ih q.disconnect

/-- The ticks that wait, if this is what becomes of them. -/
theorem waiting_offer (fate : Fate) (hfate : fate ≠ .lost) (q : TickQueue) (tick : Tick)
    (later : List QueueEvent) (rest : List Tick) :
    (if fateOfWaiting later = fate then (q.offer tick).waiting else []) ++ rest =
      (if fateOfWaiting later = fate then q.waiting else []) ++
        if q.fateOf later = fate then tick :: rest else rest := by
  cases hloses : q.loses with
  | true =>
    -- the tick is lost, and those that wait stay among themselves
    have hlost : q.fateOf later = .lost := by simp [fateOf, hloses]
    rw [offer_of_loses hloses, hlost, if_neg hfate.symm]
  | false =>
    -- the tick waits behind the others and shares what becomes of them
    have hshared : q.fateOf later = fateOfWaiting later := by simp [fateOf, hloses]
    rw [offer_of_takes hloses, hshared]
    by_cases h : fateOfWaiting later = fate <;> simp [h]

/-- **What is read**: the ticks that waited at first, unless they are lost, and after them those
    of the given ticks that are to be read. -/
theorem reads_eq (q : TickQueue) (events : List QueueEvent) :
    q.reads events =
      (if fateOfWaiting events = .read then q.waiting else []) ++
        Fate.read.among (q.fates events) := by
  -- by induction on the events, with any queue in front of them
  induction events generalizing q with
  | nil => rfl
  | cons e later ih =>
    cases e with
    | given tick =>
      show (q.offer tick).reads later = _
      rw [ih, fates, Fate.among_cons, fateOfWaiting]
      exact waiting_offer .read (by decide) q tick later _
    | read =>
      show q.waiting ++ q.drain.1.reads later = _
      rw [ih]
      simp [fateOfWaiting, fates, drain]
    | deafened =>
      show q.disconnect.reads later = _
      rw [ih]
      simp [fateOfWaiting, fates, disconnect]

/-- **What waits**: the ticks that waited at first, unless they are read or lost, and after them
    those of the given ticks that still wait. -/
theorem waiting_after (q : TickQueue) (events : List QueueEvent) :
    (q.after events).waiting =
      (if fateOfWaiting events = .waiting then q.waiting else []) ++
        Fate.waiting.among (q.fates events) := by
  induction events generalizing q with
  | nil => simp [fateOfWaiting, fates]
  | cons e later ih =>
    cases e with
    -- the queue takes the tick or drops it; the lemma on offers has both
    | given tick =>
      show ((q.offer tick).after later).waiting = _
      rw [ih, fates, Fate.among_cons, fateOfWaiting]
      exact waiting_offer .waiting (by decide) q tick later _
    | read =>
      show (q.drain.1.after later).waiting = _
      rw [ih]
      simp [fateOfWaiting, fates, drain]
    | deafened =>
      show (q.disconnect.after later).waiting = _
      rw [ih]
      simp [fateOfWaiting, fates, disconnect]

/-- The fate of a tick comes from the queue that it finds and from what happens later. -/
theorem fates_split (q : TickQueue) (before : List QueueEvent) (tick : Tick)
    (later : List QueueEvent) :
    ∃ front back, q.fates (before ++ .given tick :: later) =
        front ++ (tick, (q.after before).fateOf later) :: back ∧
      front.map Prod.fst = ticks before := by
  induction before generalizing q with
  | nil => exact ⟨[], _, rfl, rfl⟩
  | cons e before ih =>
    obtain ⟨front, back, hfates, hfront⟩ := ih (q.undergo e)
    cases e with
    -- its fate stands in front and moves the others on by one
    | given other =>
      refine ⟨(other, q.fateOf (before ++ .given tick :: later)) :: front, back, ?_, ?_⟩
      · show _ :: (q.offer other).fates (before ++ .given tick :: later) = _
        exact congrArg (_ :: ·) hfates
      · exact congrArg (other :: ·) hfront
    | read => exact ⟨front, back, hfates, hfront⟩
    | deafened => exact ⟨front, back, hfates, hfront⟩

/-- The listener went away before the tick was given, or goes away before it is read. -/
def LeftUnread (before later : List QueueEvent) : Prop :=
  .deafened ∈ before ∨ ∃ mid rest, later = mid ++ .deafened :: rest ∧ .read ∉ mid

/-- A tick is lost exactly if it finds the queue full or is left unread. -/
theorem fateOf_eq_lost_iff (h : q.connected = true) {before later : List QueueEvent} :
    (q.after before).fateOf later = .lost ↔
      capacity ≤ (q.after before).waiting.length ∨ LeftUnread before later := by
  have hgone : (q.after before).connected = false ↔ .deafened ∈ before := by
    rw [← Bool.not_eq_true, connected_after]
    simp [h]
  unfold fateOf LeftUnread
  rw [← fateOfWaiting_eq_lost_iff, ← hgone, ← or_assoc, ← loses_iff]
  by_cases hloses : (q.after before).loses = true <;> simp [hloses]

/-- A tick that is not lost waits exactly as long as nobody reads. -/
theorem fateOf_eq_waiting_iff {before later : List QueueEvent} :
    (q.after before).fateOf later = .waiting ↔
      (q.after before).fateOf later ≠ .lost ∧ .read ∉ later := by
  unfold fateOf
  by_cases hloses : (q.after before).loses = true
  · simp [hloses]
  · simp only [hloses, Bool.false_eq_true, if_false]
    constructor
    · intro hwaiting
      rw [hwaiting]
      exact ⟨by decide, (fateOfWaiting_eq_waiting_iff.1 hwaiting).1⟩
    · intro h
      refine fateOfWaiting_eq_waiting_iff.2 ⟨h.2, ?_⟩
      -- whoever goes away while nobody has read leaves the tick unread
      intro hgone
      obtain ⟨mid, rest, hsplit⟩ := List.append_of_mem hgone
      apply h.1
      refine fateOfWaiting_eq_lost_iff.2 ⟨mid, rest, hsplit, ?_⟩
      intro hread
      apply h.2
      rw [hsplit]
      exact List.mem_append_left _ hread

end TickQueue

end Rehearsal
