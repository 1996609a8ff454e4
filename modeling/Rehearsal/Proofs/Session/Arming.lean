import Rehearsal.Session.Assistant

/-! # Which intents arm a page turn

  An intent either arms exactly one page turn or leaves the scheduled turn and the pending turn
  of the slot alone. `arms?` says which turn is armed. Everything later that concerns the
  scheduled turn needs only the two facts

  - `carryOut_of_arms`: what an assistant is after an intent that arms a turn;
  - `keepsTurn_carryOut`: what stays as it is after any other intent.
-/

namespace Rehearsal

/-! ## The slot -/

namespace TurnSlot

variable {s : TurnSlot} {now : Instant} {delay : Duration} {bars : Nat}

theorem arm_of_not_ended (h : s.ended = false) :
    s.arm now delay bars =
      (⟨s.nextId + 1, some ⟨s.nextId, delay, now + delay, bars⟩, false⟩,
        .ok ⟨s.nextId, delay, now + delay, bars⟩) := by
  cases s
  subst h
  rfl

theorem arm_of_ended (h : s.ended = true) :
    s.arm now delay bars = ({ s with nextId := s.nextId + 1 }, .error endedFailure) := by
  unfold arm
  rw [if_pos h]

theorem look_of_empty (h : s.pending = none) : s.look now = (s, none) := by
  unfold look
  rw [h]

@[simp] theorem nextId_cancel (s : TurnSlot) : s.cancel.1.nextId = s.nextId := by
  unfold cancel
  split <;> rfl

@[simp] theorem nextId_look (s : TurnSlot) (now : Instant) :
    (s.look now).1.nextId = s.nextId := by
  unfold look
  split
  · split <;> rfl
  · rfl

end TurnSlot

namespace Assistant

variable {a b c : Assistant} {now : Instant} {intent : Intent} {turn : PageTurn}

/-! ## The turn that is armed -/

/-- The page turn that carrying out an intent arms, if it arms one: what the slot answers when
    some bars are asked for and a score is loaded. -/
def arms? (a : Assistant) (now : Instant) (intent : Intent) : Option PageTurn :=
  match intent with
  | .schedulePageTurn (some (bars + 1)) =>
    if a.session.pager.isSome then
      (a.slot.arm now (timeOfBars (bars + 1) a.session.metronome.tempo.bpm) (bars + 1)).2.toOption
    else none
  | _ => none

/-- A turn is armed for some bars, with a score loaded, in a slot that has not ended, and it
    carries the next number of the slot. -/
theorem arms?_eq_some (h : a.arms? now intent = some turn) :
    ∃ bars, intent = .schedulePageTurn (some (bars + 1)) ∧ a.session.pager.isSome = true ∧
      a.slot.ended = false ∧
      turn = ⟨a.slot.nextId, timeOfBars (bars + 1) a.session.metronome.tempo.bpm,
        now + timeOfBars (bars + 1) a.session.metronome.tempo.bpm, bars + 1⟩ := by
  unfold arms? at h
  split at h
  · rename_i bars
    split at h
    · rename_i hpager
      -- a score and a slot that goes on are what it takes
      cases hended : a.slot.ended with
      | true =>
        rw [TurnSlot.arm_of_ended hended] at h
        cases h
      | false =>
        rw [TurnSlot.arm_of_not_ended hended] at h
        exact ⟨bars, rfl, hpager, rfl, (Option.some.inj h).symm⟩
    · cases h
  · cases h

theorem arms?_of_ended (h : a.slot.ended = true) : a.arms? now intent = none := by
  cases harms : a.arms? now intent with
  | none => rfl
  | some turn =>
    obtain ⟨-, -, -, hended, -⟩ := arms?_eq_some harms
    rw [h] at hended
    cases hended

/-- An intent that arms a turn makes it the pending turn of the slot and the scheduled turn of
    the session, counts as one change, and changes nothing else. -/
theorem carryOut_of_arms (h : a.arms? now intent = some turn) :
    a.carryOut now intent =
      ({ a with slot := ⟨a.slot.nextId + 1, some turn, false⟩ }.change
        { a.session with scheduled := some turn }, .turnScheduled turn.bars) := by
  obtain ⟨bars, rfl, hpager, hended, rfl⟩ := arms?_eq_some h
  obtain ⟨pager, hpager⟩ := Option.isSome_iff_exists.1 hpager
  show a.scheduleTurn now (bars + 1) = _
  unfold scheduleTurn
  rw [hpager]
  simp only [TurnSlot.arm_of_not_ended hended]

/-! ## What the other intents keep -/

/-- The second assistant has the scheduled turn and the pending turn of the first, and as many
    scores; its slot has not lost a number. -/
structure KeepsTurn (a b : Assistant) : Prop where
  scheduled : b.session.scheduled = a.session.scheduled
  pending : b.slot.pending = a.slot.pending
  ended : b.slot.ended = a.slot.ended
  nextId_le : a.slot.nextId ≤ b.slot.nextId
  pager : b.session.pager.isSome = a.session.pager.isSome

theorem KeepsTurn.refl (a : Assistant) : KeepsTurn a a :=
  ⟨rfl, rfl, rfl, Nat.le_refl _, rfl⟩

theorem keepsTurn_change_metronome (a : Assistant) (metronome : Metronome) (taps : Taps) :
    KeepsTurn a (a.change { a.session with metronome, taps }) :=
  ⟨rfl, rfl, rfl, Nat.le_refl _, rfl⟩

theorem keepsTurn_startMetronome (a : Assistant) : KeepsTurn a a.startMetronome.1 := by
  unfold startMetronome
  split
  split
  · exact keepsTurn_change_metronome a _ _
  · exact .refl a

theorem keepsTurn_stopMetronome (a : Assistant) : KeepsTurn a a.stopMetronome.1 := by
  unfold stopMetronome
  split
  split
  · exact keepsTurn_change_metronome a _ _
  · exact .refl a

theorem keepsTurn_tapTempo (a : Assistant) (now : Instant) : KeepsTurn a (a.tapTempo now).1 := by
  unfold tapTempo
  dsimp only
  split
  · exact keepsTurn_change_metronome a _ _
  · exact ⟨rfl, rfl, rfl, Nat.le_refl _, rfl⟩

theorem keepsTurn_turnTo (a : Assistant) (move : Pager → Pager) :
    KeepsTurn a (a.turnTo move).1 := by
  unfold turnTo
  split
  · exact .refl a
  · rename_i hpager
    exact ⟨rfl, rfl, rfl, Nat.le_refl _, by rw [hpager]; rfl⟩

/-- A turn that is asked for but not armed costs at most a number. -/
theorem keepsTurn_scheduleTurn {bars : Nat}
    (h : a.arms? now (.schedulePageTurn (some (bars + 1))) = none) :
    KeepsTurn a (a.scheduleTurn now (bars + 1)).1 := by
  unfold scheduleTurn
  split
  · exact .refl a
  · rename_i pager hpager
    simp only [arms?, hpager, Option.isSome_some, if_true] at h
    cases hended : a.slot.ended with
    -- the refusal uses up a number
    | true =>
      simp only [TurnSlot.arm_of_ended hended]
      exact ⟨rfl, rfl, rfl, Nat.le_succ _, rfl⟩
    | false =>
      rw [TurnSlot.arm_of_not_ended hended] at h
      cases h

/-- An intent that arms no turn leaves the scheduled turn and the pending turn alone. -/
theorem keepsTurn_carryOut (h : a.arms? now intent = none) :
    KeepsTurn a (a.carryOut now intent).1 := by
  match intent, h with
  | .startMetronome, _ => exact keepsTurn_startMetronome a
  | .stopMetronome, _ => exact keepsTurn_stopMetronome a
  | .tapTempo, _ => exact keepsTurn_tapTempo a now
  | .setTempo (some _), _ => exact keepsTurn_change_metronome a _ _
  | .adjustTempo _ .up, _ => exact keepsTurn_change_metronome a _ _
  | .adjustTempo _ .down, _ => exact keepsTurn_change_metronome a _ _
  | .setSubdivision (some _), _ => exact keepsTurn_change_metronome a _ _
  | .nextPage, _ => exact keepsTurn_turnTo a _
  | .prevPage, _ => exact keepsTurn_turnTo a _
  | .gotoPage (some _), _ => exact keepsTurn_turnTo a _
  | .schedulePageTurn (some (_ + 1)), h => exact keepsTurn_scheduleTurn h
  -- what is only answered changes nothing at all
  | .queryTempo, _ => exact .refl a
  | .setTempo none, _ => exact .refl a
  | .setSubdivision none, _ => exact .refl a
  | .gotoPage none, _ => exact .refl a
  | .schedulePageTurn none, _ => exact .refl a
  | .schedulePageTurn (some 0), _ => exact .refl a
  | .help, _ => exact .refl a
  | .quit, _ => exact .refl a
  | .unknown, _ => exact .refl a

end Assistant

end Rehearsal
