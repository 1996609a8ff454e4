import Rehearsal.Metronome.Run
import Rehearsal.Proofs.Past

/-! # The looks of a metronome run

  A run is cut into the looks that its tick loop takes: one after every operation, and one after
  every single jump of the clock. A `Look` keeps the metronome before the operation and the one
  that is looked at, so that a statement about ticks can say at which look a tick was given and
  what was stored then.

  - `ticks_run`: the ticks of a run are the ticks of its looks.
  - `chained_looks`: every look begins where the one before it ended.
-/

namespace Rehearsal

/-- What an operation does to the metronome itself. -/
def Metronome.operate (m : Metronome) : MetronomeOp → Metronome
  | .start => m.start.1
  | .stop => m.stop.1
  | .setBpm bpm => m.setBpm bpm
  | .increase n => m.increase n
  | .decrease n => m.decrease n
  | .nameSubdivision name => (m.nameSubdivision name).1
  | .shutdown => m.shutdown
  | .advance .. | .deafen | .nothing => m

/-- How many looks follow an operation. -/
def MetronomeOp.lookCount : MetronomeOp → Nat
  | .advance _ times => times
  | _ => 1

theorem MetronomeOp.advance_or_not (op : MetronomeOp) :
    (∃ distance times, op = .advance distance times) ∨
    ∀ distance times, op ≠ .advance distance times := by
  cases op with
  | advance distance times => exact .inl ⟨distance, times, rfl⟩
  | _ => exact .inr (by simp)

/-- One look of the tick loop. -/
structure Look where
  op : MetronomeOp
  clock : Instant
  before : Metronome
  metronome : Metronome
  deriving DecidableEq, Repr

namespace Look

def tick (l : Look) : Option Tick := (l.metronome.look l.clock).2

def left (l : Look) : Metronome := (l.metronome.look l.clock).1

end Look

namespace MetronomeRun

/-- The looks of so many jumps, which belong to the operation `op`. -/
def jumpLooks (r : MetronomeRun) (op : MetronomeOp) (distance : Duration) : Nat → List Look
  | 0 => []
  | n + 1 =>
    let r := { r with clock := r.clock + distance }
    ⟨op, r.clock, r.metronome, r.metronome⟩ :: jumpLooks r.look.1 op distance n

def stepLooks (r : MetronomeRun) (op : MetronomeOp) : List Look :=
  match op with
  | .advance distance times => r.jumpLooks op distance times
  | _ => [⟨op, r.clock, r.metronome, (r.act op).1.metronome⟩]

/-- The looks of some operations, one after the other. -/
def looks (r : MetronomeRun) : List MetronomeOp → List Look
  | [] => []
  | op :: ops => r.stepLooks op ++ looks (r.step op).1 ops

/-- Some operations, one after the other: the run after them and all ticks that the loop gave,
    whether or not the queue took them. -/
def run (r : MetronomeRun) : List MetronomeOp → MetronomeRun × List Tick
  | [] => (r, [])
  | op :: ops =>
    let (r, _, first) := r.step op
    let (r, rest) := run r ops
    (r, first ++ rest)

variable {r : MetronomeRun} {op : MetronomeOp}

theorem act_metronome (r : MetronomeRun) (op : MetronomeOp) :
    (r.act op).1.metronome = r.metronome.operate op := by
  cases op <;> rfl

theorem act_clock (r : MetronomeRun) (op : MetronomeOp) : (r.act op).1.clock = r.clock := by
  cases op <;> rfl

theorem step_of_not_advance (h : ∀ distance times, op ≠ .advance distance times) :
    r.step op = ((r.act op).1.look.1, (r.act op).2, (r.act op).1.look.2) := by
  cases op with
  | advance distance times => exact absurd rfl (h distance times)
  | _ => rfl

theorem stepLooks_of_not_advance (h : ∀ distance times, op ≠ .advance distance times) :
    r.stepLooks op = [⟨op, r.clock, r.metronome, r.metronome.operate op⟩] := by
  rw [← act_metronome]
  cases op with
  | advance distance times => exact absurd rfl (h distance times)
  | _ => rfl

/-! ## The looks belong to the operations -/

theorem ops_jumpLooks (op : MetronomeOp) (distance : Duration) (n : Nat) :
    (r.jumpLooks op distance n).map Look.op = List.replicate n op := by
  induction n generalizing r with
  | zero => rfl
  | succ n ih =>
    rw [jumpLooks, List.map_cons, ih, List.replicate_succ]

theorem ops_stepLooks (r : MetronomeRun) (op : MetronomeOp) :
    (r.stepLooks op).map Look.op = List.replicate op.lookCount op := by
  cases op with
  | advance distance times => exact ops_jumpLooks (.advance distance times) distance times
  | _ => rfl

theorem ops_looks (r : MetronomeRun) (ops : List MetronomeOp) :
    (r.looks ops).map Look.op = ops.flatMap fun op => List.replicate op.lookCount op := by
  induction ops generalizing r with
  | nil => rfl
  | cons op ops ih => rw [looks, List.map_append, ops_stepLooks, ih, List.flatMap_cons]

/-! ## The looks give the ticks -/

theorem ticks_jumps (op : MetronomeOp) (distance : Duration) (n : Nat) :
    (r.jumps distance n).2 = (r.jumpLooks op distance n).filterMap Look.tick := by
  induction n generalizing r with
  | zero => rfl
  | succ n ih =>
    let next : MetronomeRun := { r with clock := r.clock + distance }
    let now : Look := ⟨op, next.clock, next.metronome, next.metronome⟩
    show now.tick.toList ++ (next.look.1.jumps distance n).2 =
      (now :: next.look.1.jumpLooks op distance n).filterMap Look.tick
    rw [ih, filterMap_cons_toList]

theorem ticks_step (r : MetronomeRun) (op : MetronomeOp) :
    (r.step op).2.2 = (r.stepLooks op).filterMap Look.tick := by
  -- jumps have a look each, all other operations have one
  rcases op.advance_or_not with ⟨distance, times, rfl⟩ | h
  · exact ticks_jumps (.advance distance times) distance times
  · rw [step_of_not_advance h, stepLooks_of_not_advance h, filterMap_cons_toList,
      List.filterMap_nil, List.append_nil]
    show ((r.act op).1.metronome.look (r.act op).1.clock).2.toList = _
    rw [act_metronome, act_clock]
    rfl

/-- The ticks of a run are the ticks of its looks. -/
theorem ticks_run (r : MetronomeRun) (ops : List MetronomeOp) :
    (r.run ops).2 = (r.looks ops).filterMap Look.tick := by
  induction ops generalizing r with
  | nil => rfl
  | cons op ops ih =>
    show (r.step op).2.2 ++ ((r.step op).1.run ops).2 = _
    rw [looks, List.filterMap_append, ticks_step, ih]

end MetronomeRun

/-! ## Every look begins where the one before it ended -/

/-- The looks follow one another, the first one from the metronome `m`. -/
def Chained (m : Metronome) : List Look → Prop
  | [] => True
  | l :: looks => l.before = m ∧ l.metronome = m.operate l.op ∧ Chained l.left looks

def leave (m : Metronome) : List Look → Metronome
  | [] => m
  | l :: looks => leave l.left looks

theorem chained_append {m : Metronome} {front back : List Look} :
    Chained m (front ++ back) ↔ Chained m front ∧ Chained (leave m front) back := by
  induction front generalizing m with
  | nil => exact ⟨fun h => ⟨trivial, h⟩, fun h => h.2⟩
  | cons l front ih =>
    show (_ ∧ _ ∧ Chained l.left (front ++ back)) ↔ (_ ∧ _ ∧ Chained l.left front) ∧ _
    rw [ih]
    exact ⟨fun ⟨hbefore, hop, hfront, hback⟩ => ⟨⟨hbefore, hop, hfront⟩, hback⟩,
      fun ⟨⟨hbefore, hop, hfront⟩, hback⟩ => ⟨hbefore, hop, hfront, hback⟩⟩

/-- A property that operations and looks keep holds after any looks. -/
theorem Chained.preserves {P : Metronome → Prop} (hoperate : ∀ m op, P m → P (m.operate op))
    (hlook : ∀ m now, P m → P (m.look now).1) {m : Metronome} {looks : List Look}
    (chained : Chained m looks) (hm : P m) : P (leave m looks) := by
  induction looks generalizing m with
  | nil => exact hm
  | cons l looks ih =>
    obtain ⟨-, hop, hrest⟩ := chained
    refine ih hrest (hlook _ _ ?_)
    rw [hop]
    exact hoperate _ _ hm

namespace MetronomeRun

variable {r : MetronomeRun}

theorem chained_jumpLooks (distance : Duration) (times n : Nat) :
    Chained r.metronome (r.jumpLooks (.advance distance times) distance n) ∧
      leave r.metronome (r.jumpLooks (.advance distance times) distance n) =
        (r.jumps distance n).1.metronome := by
  induction n generalizing r with
  | zero => exact ⟨trivial, rfl⟩
  | succ n ih =>
    obtain ⟨hchained, hleave⟩ := ih (r := (look { r with clock := r.clock + distance }).1)
    exact ⟨⟨rfl, rfl, hchained⟩, hleave⟩

theorem chained_stepLooks (r : MetronomeRun) (op : MetronomeOp) :
    Chained r.metronome (r.stepLooks op) ∧
      leave r.metronome (r.stepLooks op) = (r.step op).1.metronome := by
  rcases op.advance_or_not with ⟨distance, times, rfl⟩ | h
  · exact chained_jumpLooks distance times times
  · rw [stepLooks_of_not_advance h, step_of_not_advance h]
    refine ⟨⟨rfl, rfl, trivial⟩, ?_⟩
    show ((r.metronome.operate op).look r.clock).1 =
      ((r.act op).1.metronome.look (r.act op).1.clock).1
    rw [act_metronome, act_clock]

theorem chained_looks (r : MetronomeRun) (ops : List MetronomeOp) :
    Chained r.metronome (r.looks ops) := by
  induction ops generalizing r with
  | nil => trivial
  | cons op ops ih =>
    obtain ⟨hchained, hleave⟩ := r.chained_stepLooks op
    rw [looks, chained_append, hleave]
    exact ⟨hchained, ih _⟩

end MetronomeRun

end Rehearsal
