import Mathlib.Data.List.Basic
import Rehearsal.Proofs.Past
import Rehearsal.Session.SlotRun

/-! # The looks of a slot run

  A slot run is cut into the looks that the slot takes: one after every operation, and one after
  every single jump of the clock. A `SlotLook` keeps the run as its operation finds it, so that a
  statement about turns can say at which look a turn was armed, waited or fired.

  - `fired_run`, `answers_run`: what a run gives and answers is what its looks give and answer.
  - `watched_looks`: every look finds the slot as the one before it left it.

  What an operation does to the slot is said once, in `pending_operated`, `nextId_operated` and
  `ended_operated`.
-/

namespace Rehearsal

/-- How many looks follow an operation. -/
def SlotOp.lookCount : SlotOp → Nat
  | .advance _ times => times
  | _ => 1

theorem SlotOp.advance_or_not (op : SlotOp) : (∃ distance times, op = .advance distance times) ∨
    ∀ distance times, op ≠ .advance distance times := by
  cases op with
  | advance distance times => exact .inl ⟨distance, times, rfl⟩
  | _ => exact .inr (by simp)

/-- The operation takes a turn that waits away, or puts another one in its place. -/
def SlotOp.Drops : SlotOp → Prop
  | .arm .. | .cancel | .shutdown => True
  | .advance .. => False

/-- One look of the slot. -/
structure SlotLook where
  op : SlotOp
  /-- The run as the operation finds it, with the clock at the time of the look. -/
  found : SlotRun
  deriving DecidableEq, Repr

namespace SlotLook

/-- The time. -/
def clock (l : SlotLook) : Instant := l.found.clock

def answer (l : SlotLook) : SlotAnswer := (l.found.act l.op).2

/-- The turn that the operation arms, if it arms one. -/
def armed (l : SlotLook) : Option PageTurn :=
  match l.answer with
  | .armed (.ok turn) => some turn
  | _ => none

def operated (l : SlotLook) : TurnSlot := (l.found.act l.op).1.slot

def fired (l : SlotLook) : Option PageTurn := (l.operated.look l.clock).2

def left (l : SlotLook) : SlotRun := (l.found.act l.op).1.look.1

/-- The turn that waits after the look, if one does. -/
def pending (l : SlotLook) : Option PageTurn := l.left.slot.pending

variable {l : SlotLook} {turn : PageTurn}

/-! ## What an operation does -/

theorem act_clock (l : SlotLook) : (l.found.act l.op).1.clock = l.clock := by
  cases hop : l.op <;> rfl

theorem left_slot (l : SlotLook) : l.left.slot = (l.operated.look l.clock).1 := by
  show ((l.found.act l.op).1.slot.look (l.found.act l.op).1.clock).1 = _
  rw [act_clock]
  rfl

theorem left_clock (l : SlotLook) : l.left.clock = l.clock := l.act_clock

theorem look_snd (l : SlotLook) : (l.found.act l.op).1.look.2 = l.fired.toList := by
  show ((l.found.act l.op).1.slot.look (l.found.act l.op).1.clock).2.toList = _
  rw [act_clock]
  rfl

/-- A turn is armed in a slot that has not ended. It gets the next number and is due when its delay
    is over. -/
theorem arm_ok {delay : Duration} {bars : Nat} (hop : l.op = .arm delay bars)
    (hended : l.found.slot.ended = false) :
    l.answer = .armed (.ok ⟨l.found.slot.nextId, delay, l.clock + delay, bars⟩) ∧
      l.operated = ⟨l.found.slot.nextId + 1,
        some ⟨l.found.slot.nextId, delay, l.clock + delay, bars⟩, false⟩ := by
  unfold answer operated
  simp [hop, SlotRun.act, TurnSlot.arm, hended, clock]

theorem arm_error {delay : Duration} {bars : Nat} (hop : l.op = .arm delay bars)
    (hended : l.found.slot.ended = true) :
    l.answer = .armed (.error TurnSlot.endedFailure) ∧
      l.operated = { l.found.slot with nextId := l.found.slot.nextId + 1 } := by
  unfold answer operated
  simp [hop, SlotRun.act, TurnSlot.arm, hended]

theorem cancel_ok (hop : l.op = .cancel) (hended : l.found.slot.ended = false) :
    l.answer = .cancelled (.ok ()) ∧ l.operated = { l.found.slot with pending := none } := by
  unfold answer operated
  simp [hop, SlotRun.act, TurnSlot.cancel, hended]

theorem cancel_error (hop : l.op = .cancel) (hended : l.found.slot.ended = true) :
    l.answer = .cancelled (.error TurnSlot.endedFailure) ∧ l.operated = l.found.slot := by
  unfold answer operated
  simp [hop, SlotRun.act, TurnSlot.cancel, hended]

/-- A turn that was armed says by which operation, and when it is due. -/
theorem armed_eq_some (h : l.armed = some turn) :
    ∃ delay bars, l.op = .arm delay bars ∧ l.found.slot.ended = false ∧
      turn = ⟨l.found.slot.nextId, delay, l.clock + delay, bars⟩ := by
  unfold armed at h
  cases hop : l.op with
  | arm delay bars =>
    -- only a slot that goes on takes a turn
    cases hended : l.found.slot.ended with
    | true =>
      rw [(arm_error hop hended).1] at h
      cases h
    | false =>
      rw [(arm_ok hop hended).1] at h
      exact ⟨delay, bars, rfl, rfl, (Option.some.inj h).symm⟩
  | cancel =>
    cases hended : l.found.slot.ended with
    | true => simp [(cancel_error hop hended).1] at h
    | false => simp [(cancel_ok hop hended).1] at h
  | advance distance times => simp [answer, hop, SlotRun.act] at h
  | shutdown => simp [answer, hop, SlotRun.act] at h

theorem armed_of_not_ended {delay : Duration} {bars : Nat} (hop : l.op = .arm delay bars)
    (hended : l.found.slot.ended = false) :
    l.armed = some ⟨l.found.slot.nextId, delay, l.clock + delay, bars⟩ := by
  unfold armed
  rw [(arm_ok hop hended).1]

/-- After the operation a turn waits if it was armed just now, or if it waited before and was not
    dropped. In a slot that has ended nothing waits. -/
theorem pending_operated (hquiet : l.found.slot.ended = true → l.found.slot.pending = none) :
    l.operated.pending = some turn ↔
      l.armed = some turn ∨ (l.found.slot.pending = some turn ∧ ¬ l.op.Drops) := by
  cases hop : l.op with
  | arm delay bars =>
    -- a slot that has ended refuses, and nothing was pending in it
    cases hended : l.found.slot.ended with
    | true =>
      have harmed : l.armed = none := by simp [armed, (arm_error hop hended).1]
      simp [(arm_error hop hended).2, harmed, SlotOp.Drops, hquiet hended]
    | false => simp [(arm_ok hop hended).2, armed_of_not_ended hop hended, SlotOp.Drops]
  | cancel =>
    cases hended : l.found.slot.ended with
    | true =>
      have harmed : l.armed = none := by simp [armed, (cancel_error hop hended).1]
      simp [(cancel_error hop hended).2, harmed, SlotOp.Drops, hquiet hended]
    | false =>
      have harmed : l.armed = none := by simp [armed, (cancel_ok hop hended).1]
      simp [(cancel_ok hop hended).2, harmed, SlotOp.Drops]
  | advance distance times => simp [operated, armed, answer, hop, SlotRun.act, SlotOp.Drops]
  | shutdown =>
    simp [operated, armed, answer, hop, SlotRun.act, TurnSlot.shutdown, SlotOp.Drops]

/-- Only a shutdown ends the slot, and it does so for good. -/
theorem ended_operated (l : SlotLook) :
    l.operated.ended = true ↔ l.found.slot.ended = true ∨ l.op = .shutdown := by
  cases hop : l.op with
  | arm delay bars =>
    cases hended : l.found.slot.ended with
    | true => simp [(arm_error hop hended).2, hended]
    | false => simp [(arm_ok hop hended).2]
  | cancel =>
    cases hended : l.found.slot.ended with
    | true => simp [(cancel_error hop hended).2, hended]
    | false => simp [(cancel_ok hop hended).2, hended]
  | advance distance times => simp [operated, hop, SlotRun.act]
  | shutdown => simp [operated, hop, SlotRun.act, TurnSlot.shutdown]

/-- A slot that has not ended uses up a number exactly when it arms a turn. -/
theorem nextId_operated (hended : l.found.slot.ended = false) :
    l.operated.nextId = l.found.slot.nextId + l.armed.toList.length := by
  cases hop : l.op with
  | arm delay bars => simp [(arm_ok hop hended).2, armed_of_not_ended hop hended]
  | cancel =>
    have harmed : l.armed = none := by simp [armed, (cancel_ok hop hended).1]
    simp [(cancel_ok hop hended).2, harmed]
  | advance distance times => simp [operated, armed, answer, hop, SlotRun.act]
  | shutdown => simp [operated, armed, answer, hop, SlotRun.act, TurnSlot.shutdown]

/-! ## What a look does -/

/-- The turn that waits fires if it is due. -/
theorem fired_eq_some :
    l.fired = some turn ↔ l.operated.pending = some turn ∧ turn.due ≤ l.clock := by
  unfold fired TurnSlot.look
  cases hpending : l.operated.pending with
  | none => simp
  | some other =>
    -- the turn that waits fires exactly if it is due
    by_cases hdue : other.due ≤ l.clock
    · simp only [if_pos hdue, Option.some.injEq]
      constructor
      · rintro rfl
        exact ⟨rfl, hdue⟩
      · exact And.left
    · simp only [if_neg hdue, Option.some.injEq]
      constructor
      · intro h
        cases h
      · rintro ⟨rfl, h⟩
        exact absurd h hdue

/-- The turn that waits goes on waiting if it is not due. -/
theorem pending_eq_some :
    l.pending = some turn ↔ l.operated.pending = some turn ∧ l.clock < turn.due := by
  unfold pending
  rw [left_slot, TurnSlot.look]
  cases hpending : l.operated.pending with
  | none => simp [hpending]
  | some other =>
    -- a turn that is due fires and does not wait any longer
    by_cases hdue : other.due ≤ l.clock
    · simp only [if_pos hdue, Option.some.injEq]
      constructor
      · intro h
        cases h
      · rintro ⟨rfl, h⟩
        exact absurd hdue (Nat.not_le.2 h)
    · simp only [if_neg hdue, hpending, Option.some.injEq]
      constructor
      · rintro rfl
        exact ⟨rfl, Nat.lt_of_not_le hdue⟩
      · exact And.left

theorem left_nextId (l : SlotLook) : l.left.slot.nextId = l.operated.nextId := by
  rw [left_slot, TurnSlot.look]
  split
  · split <;> rfl
  · rfl

theorem left_ended (l : SlotLook) : l.left.slot.ended = l.operated.ended := by
  rw [left_slot, TurnSlot.look]
  split
  · split <;> rfl
  · rfl

end SlotLook

/-! ## The looks of a run -/

namespace SlotRun

/-- The looks of so many jumps, which belong to the operation `op`. -/
def jumpLooks (r : SlotRun) (op : SlotOp) (distance : Duration) : Nat → List SlotLook
  | 0 => []
  | n + 1 =>
    let r := { r with clock := r.clock + distance }
    ⟨op, r⟩ :: jumpLooks r.look.1 op distance n

def stepLooks (r : SlotRun) (op : SlotOp) : List SlotLook :=
  match op with
  | .advance distance times => r.jumpLooks op distance times
  | _ => [⟨op, r⟩]

/-- The looks of some operations, one after the other. -/
def looks (r : SlotRun) : List SlotOp → List SlotLook
  | [] => []
  | op :: ops => r.stepLooks op ++ looks (r.step op).1 ops

/-- Some operations, one after the other: the run after them, and what each of them answered and
    which turns it let fire. -/
def run (r : SlotRun) : List SlotOp → SlotRun × List (SlotOp × SlotAnswer × List PageTurn)
  | [] => (r, [])
  | op :: ops =>
    let (next, answer, fired) := r.step op
    let (last, rest) := run next ops
    (last, (op, answer, fired) :: rest)

variable {r : SlotRun} {op : SlotOp}

theorem run_cons (r : SlotRun) (op : SlotOp) (ops : List SlotOp) :
    r.run (op :: ops) = (((r.step op).1.run ops).1,
      (op, (r.step op).2) :: ((r.step op).1.run ops).2) := rfl

/-- An operation that is no jump of the clock is followed by one look. -/
theorem step_of_not_advance (h : ∀ distance times, op ≠ .advance distance times) :
    r.stepLooks op = [⟨op, r⟩] ∧
      r.step op = (SlotLook.left ⟨op, r⟩, SlotLook.answer ⟨op, r⟩,
        (SlotLook.fired ⟨op, r⟩).toList) := by
  rw [← SlotLook.look_snd]
  cases op with
  | advance distance times => exact absurd rfl (h distance times)
  | _ => exact ⟨rfl, rfl⟩

/-! ## The looks belong to the operations -/

theorem fired_jumps (distance : Duration) (times n : Nat) :
    (r.jumps distance n).2 =
      (r.jumpLooks (.advance distance times) distance n).filterMap SlotLook.fired := by
  induction n generalizing r with
  | zero => rfl
  | succ n ih =>
    let next : SlotRun := { r with clock := r.clock + distance }
    let now : SlotLook := ⟨.advance distance times, next⟩
    show next.look.2 ++ (next.look.1.jumps distance n).2 =
      (now :: next.look.1.jumpLooks (.advance distance times) distance n).filterMap SlotLook.fired
    rw [ih, filterMap_cons_toList]
    rfl

theorem fired_step (r : SlotRun) (op : SlotOp) :
    (r.step op).2.2 = (r.stepLooks op).filterMap SlotLook.fired := by
  -- jumps have a look each, all other operations have one
  rcases op.advance_or_not with ⟨distance, times, rfl⟩ | h
  · exact fired_jumps distance times times
  · obtain ⟨hlooks, hstep⟩ := step_of_not_advance (r := r) h
    rw [hlooks, hstep, filterMap_cons_toList]
    simp

/-- The turns that fire in a run fire at its looks. -/
theorem fired_run (r : SlotRun) (ops : List SlotOp) :
    ((r.run ops).2.flatMap fun s => s.2.2) = (r.looks ops).filterMap SlotLook.fired := by
  induction ops generalizing r with
  | nil => rfl
  | cons op ops ih =>
    rw [run_cons, List.flatMap_cons, looks, List.filterMap_append, fired_step, ih]

theorem answers_jumps (distance : Duration) (times n : Nat) :
    ((r.jumpLooks (.advance distance times) distance n).map fun l => (l.op, l.answer)) =
      List.replicate n (.advance distance times, .done) := by
  induction n generalizing r with
  | zero => rfl
  | succ n ih =>
    rw [jumpLooks, List.map_cons, ih, List.replicate_succ]
    rfl

theorem answers_step (r : SlotRun) (op : SlotOp) :
    ((r.stepLooks op).map fun l => (l.op, l.answer)) =
      List.replicate op.lookCount (op, (r.step op).2.1) := by
  cases op with
  | advance distance times => exact answers_jumps distance times times
  | _ => rfl

/-- The looks come in the order of the operations, and an operation answers the same at all of
    its looks. -/
theorem answers_run (r : SlotRun) (ops : List SlotOp) :
    ((r.looks ops).map fun l => (l.op, l.answer)) =
      (r.run ops).2.flatMap fun s => List.replicate s.1.lookCount (s.1, s.2.1) := by
  induction ops generalizing r with
  | nil => rfl
  | cons op ops ih =>
    rw [run_cons, List.flatMap_cons, looks, List.map_append, answers_step, ih]

theorem ops_run (r : SlotRun) (ops : List SlotOp) : (r.run ops).2.map (·.1) = ops := by
  induction ops generalizing r with
  | nil => rfl
  | cons op ops ih =>
    rw [run_cons, List.map_cons, ih]

end SlotRun

/-! ## Every look finds the slot as the one before it left it -/

/-- The looks follow one another, the first one at an empty slot, and lead to the run. -/
inductive Watched : List SlotLook → SlotRun → Prop where
  | start : Watched [] .initial
  | snoc {looks : List SlotLook} {r : SlotRun} (l : SlotLook) :
      Watched looks r → l.found.slot = r.slot → Watched (looks ++ [l]) l.left

namespace Watched

variable {looks front back : List SlotLook} {l : SlotLook} {r : SlotRun}

/-- What comes before a look was watched as well. -/
theorem before_look (w : Watched (front ++ l :: back) r) :
    ∃ r, Watched front r ∧ l.found.slot = r.slot := by
  -- by induction on the looks; the look is the last one, or comes before it
  generalize hlooks : front ++ l :: back = looks at w
  induction w generalizing back with
  | start => simp at hlooks
  | @snoc looks r k w hfound ih =>
    rcases List.eq_nil_or_concat back with rfl | ⟨rest, last, rfl⟩
    · obtain ⟨rfl, hlast⟩ := List.append_inj' hlooks rfl
      obtain rfl := (List.cons.inj hlast).1
      exact ⟨r, w, hfound⟩
    · rw [List.concat_eq_append, ← List.cons_append, ← List.append_assoc] at hlooks
      exact ih (List.append_inj' hlooks rfl).1

theorem jumps (w : Watched looks r) (distance : Duration) (times n : Nat) :
    Watched (looks ++ r.jumpLooks (.advance distance times) distance n)
      (r.jumps distance n).1 := by
  induction n generalizing looks r with
  | zero =>
    rw [SlotRun.jumpLooks, List.append_nil]
    exact w
  | succ n ih =>
    let next : SlotRun := { r with clock := r.clock + distance }
    have w := ih (w.snoc ⟨.advance distance times, next⟩ rfl)
    rw [List.append_assoc] at w
    exact w

theorem step (w : Watched looks r) (op : SlotOp) :
    Watched (looks ++ r.stepLooks op) (r.step op).1 := by
  rcases op.advance_or_not with ⟨distance, times, rfl⟩ | h
  · exact w.jumps distance times times
  · obtain ⟨hlooks, hstep⟩ := SlotRun.step_of_not_advance (r := r) h
    rw [hlooks, hstep]
    exact w.snoc ⟨op, r⟩ rfl

theorem run (w : Watched looks r) (ops : List SlotOp) :
    Watched (looks ++ r.looks ops) (r.run ops).1 := by
  induction ops generalizing looks r with
  | nil =>
    rw [SlotRun.looks, List.append_nil]
    exact w
  | cons op ops ih =>
    have w := ih (w.step op)
    rw [List.append_assoc] at w
    exact w

end Watched

/-- The looks of a run, from the beginning on. -/
theorem SlotRun.watched_looks (ops : List SlotOp) :
    Watched (initial.looks ops) (initial.run ops).1 :=
  Watched.start.run ops

end Rehearsal
