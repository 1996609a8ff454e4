import Rehearsal.Proofs.Session.Happenings

/-! # Changes that make no difference

  Some of what the slot and the viewer hold is written and never read: whether the viewer fails, or
  the next number of a slot that gives no more numbers away. A change of such a part is *inert*. It
  may be made before or after anything that happens, so a session goes on as if it had not been
  made.

  Only one thing that happens is left open: a page turn that is asked for takes a number from the
  slot, which an inert change may have changed.

  Main statement: `Inert.undergo`.
-/

namespace Rehearsal

/-- The assistant with its slot and its viewer changed. -/
def Assistant.alter (slot : TurnSlot → TurnSlot) (viewer : Viewer → Viewer) (a : Assistant) :
    Assistant :=
  { a with slot := slot a.slot, viewer := viewer a.viewer }

/-- The session with its slot and its viewer changed. -/
def Practice.alter (slot : TurnSlot → TurnSlot) (viewer : Viewer → Viewer) (p : Practice) :
    Practice :=
  { p with assistant := p.assistant.alter slot viewer }

/-- Slot and viewer may be changed before or after anything that is done to them. -/
structure Inert (slot : TurnSlot → TurnSlot) (viewer : Viewer → Viewer) : Prop where
  /-- The slot may take a look before or after, and lets go of the same turn. -/
  look : ∀ s now, (slot s).look now = (slot (s.look now).1, (s.look now).2)
  /-- The slot may be ended before or after. -/
  shutdown : ∀ s : TurnSlot, (slot s).cancel.1.shutdown = slot s.cancel.1.shutdown
  /-- The viewer may be asked before or after. -/
  showPage : ∀ v pager, (viewer v).showPage pager = viewer (v.showPage pager)

/-! ## What does not concern slot and viewer -/

namespace Assistant

variable (slot : TurnSlot → TurnSlot) (viewer : Viewer → Viewer)

theorem startMetronome_alter (a : Assistant) :
    (a.alter slot viewer).startMetronome =
      (a.startMetronome.1.alter slot viewer, a.startMetronome.2) := by
  unfold startMetronome alter
  dsimp only
  split <;> rfl

theorem stopMetronome_alter (a : Assistant) :
    (a.alter slot viewer).stopMetronome =
      (a.stopMetronome.1.alter slot viewer, a.stopMetronome.2) := by
  unfold stopMetronome alter
  dsimp only
  split <;> rfl

theorem tapTempo_alter (a : Assistant) (now : Instant) :
    (a.alter slot viewer).tapTempo now =
      ((a.tapTempo now).1.alter slot viewer, (a.tapTempo now).2) := by
  unfold tapTempo alter
  dsimp only
  split <;> rfl

end Assistant

/-! ## What concerns them -/

namespace Inert

variable {slot : TurnSlot → TurnSlot} {viewer : Viewer → Viewer}

theorem turnTo (h : Inert slot viewer) (a : Assistant) (move : Pager → Pager) :
    (a.alter slot viewer).turnTo move =
      ((a.turnTo move).1.alter slot viewer, (a.turnTo move).2) := by
  unfold Assistant.turnTo Assistant.alter
  dsimp only
  split
  · rfl
  · rw [h.showPage]
    rfl

theorem showCurrent (h : Inert slot viewer) (a : Assistant) :
    (a.alter slot viewer).showCurrent =
      (a.showCurrent.1.alter slot viewer, a.showCurrent.2) := by
  unfold Assistant.showCurrent Assistant.alter
  dsimp only
  split
  · rfl
  · rw [h.showPage]

theorem fire (h : Inert slot viewer) (a : Assistant) (turn : PageTurn) :
    (a.alter slot viewer).fire turn = ((a.fire turn).1.alter slot viewer, (a.fire turn).2) := by
  unfold Assistant.fire Assistant.alter
  dsimp only
  split
  · split
    · rfl
    · rw [h.showPage]
      rfl
  · rfl

/-- Every intent but that to turn a page later. -/
theorem carryOut (h : Inert slot viewer) {intent : Intent}
    (hturn : ∀ bars, intent ≠ .schedulePageTurn (some (bars + 1))) (a : Assistant) (now : Instant) :
    (a.alter slot viewer).carryOut now intent =
      ((a.carryOut now intent).1.alter slot viewer, (a.carryOut now intent).2) := by
  match intent with
  | .schedulePageTurn (some (bars + 1)) => exact absurd rfl (hturn bars)
  | .startMetronome => exact a.startMetronome_alter slot viewer
  | .stopMetronome => exact a.stopMetronome_alter slot viewer
  | .tapTempo => exact a.tapTempo_alter slot viewer now
  | .nextPage | .prevPage | .gotoPage (some _) => exact h.turnTo a _
  -- the others write nothing but the session, or only answer
  | .setTempo (some _) | .adjustTempo _ .up | .adjustTempo _ .down | .setSubdivision (some _) => rfl
  | .setTempo none | .setSubdivision none | .gotoPage none | .schedulePageTurn none => rfl
  | .schedulePageTurn (some 0) | .queryTempo | .help | .quit | .unknown => rfl

theorem lookAtTurn (h : Inert slot viewer) (p : Practice) :
    (p.alter slot viewer).lookAtTurn =
      (p.lookAtTurn.1.alter slot viewer, p.lookAtTurn.2) := by
  have hlook := h.look p.assistant.slot p.clock
  unfold Practice.lookAtTurn Practice.alter
  cases hfired : p.assistant.slot.look p.clock with
  | mk left fired =>
    rw [hfired] at hlook
    rw [show (p.assistant.alter slot viewer).slot.look p.clock = (slot left, fired) from hlook]
    cases fired with
    | none => rfl
    | some turn =>
      -- the turn that the slot lets go of fires in both
      have hfire := h.fire { p.assistant with slot := left } turn
      dsimp only [Assistant.alter] at hfire ⊢
      rw [hfire]

/-- **Inert changes make no difference**: but for a page turn that is asked for, whatever happens
    may happen before or after the change. -/
theorem undergo (h : Inert slot viewer) {what : Happening}
    (hturn : ∀ bars, what ≠ .act (.intent (.schedulePageTurn (some (bars + 1))))) (p : Practice) :
    (p.alter slot viewer).undergo what =
      ((p.undergo what).1.alter slot viewer, (p.undergo what).2) := by
  match what with
  -- an intent that arms no turn
  | .act (.intent intent) =>
    have hintent : ∀ bars, intent ≠ .schedulePageTurn (some (bars + 1)) := by
      rintro bars rfl
      exact hturn bars rfl
    simp only [Practice.undergo, Practice.act, Practice.alter, h.carryOut hintent]
  | .act .showPage =>
    simp only [Practice.undergo, Practice.act, Practice.alter, h.showCurrent]
  | .act .shutdown =>
    simp only [Practice.undergo, Practice.act, Practice.alter, Assistant.shutdown, Assistant.alter,
      h.shutdown]
    rfl
  | .lookAtTurn => simp only [Practice.undergo, h.lookAtTurn]
  | .act .forgetScheduled | .act (.load _) | .act (.advance ..) | .act .nothing => rfl
  | .pass _ | .lookAtTicks | .read => rfl

end Inert

end Rehearsal
