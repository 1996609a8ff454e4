import Rehearsal.Proofs.Metronome.TickLaw
import Rehearsal.Proofs.Session.TwoSides
import Rehearsal.Proofs.Session.WithoutEffect

/-! # Nothing happens after the shutdown

  The shutdown drops the page turn that waits, be it due already or not, and ends the tick loop and
  the turn slot for good. Afterwards the musician may do as before, and may start the transport
  again, but nothing in the background joins in.

  Each side of the session is *over* in its own way, and stays so whatever happens: the tick loop of
  the beat has ended (`Beat.IsOver`); the slot of the pages has ended, nothing waits in it and
  nothing is scheduled (`Pages.IsOver`). All the rest is read off a session that is over (`IsOver`).

  Main statement: `silent_after_shutdown`.
-/

namespace Rehearsal

/-! ## The beat -/

/-- The tick loop has ended. -/
def Beat.IsOver (b : Beat) : Prop := b.metronome.ended = true

namespace Beat

variable {b : Beat} {now : Instant}

theorem IsOver.carryOut (h : b.IsOver) (intent : Intent) : (b.carryOut now intent).IsOver := by
  match intent with
  | .startMetronome =>
    show b.metronome.start.1.ended = true
    rw [b.metronome.start_frame.2.2]
    exact h
  | .tapTempo =>
    show (b.tap now).metronome.ended = true
    unfold Beat.tap
    split
    · exact h
    · exact h
  -- the others keep all of the metronome but its tempo and its transport
  | .stopMetronome | .setTempo (some _) | .adjustTempo _ .up | .adjustTempo _ .down => exact h
  | .setSubdivision (some _) | .setTempo none | .setSubdivision none | .queryTempo => exact h
  | .nextPage | .prevPage | .gotoPage _ | .schedulePageTurn _ => exact h
  | .help | .quit | .unknown => exact h

theorem IsOver.undergo (h : b.IsOver) (what : Happening) : (b.undergo now what).1.IsOver := by
  cases what with
  | act step =>
    cases step with
    | intent intent => exact h.carryOut intent
    | shutdown => rfl
    | advance distance times => exact h
    | showPage => exact h
    | forgetScheduled => exact h
    | load pager => exact h
    | nothing => exact h
  | lookAtTicks =>
    show (b.metronome.look now).1.ended = true
    rw [(b.metronome.look_frame now).2.2.2]
    exact h
  | pass time => exact h
  | lookAtTurn => exact h
  | read => exact h

end Beat

/-! ## The pages -/

/-- The slot has ended, nothing waits in it, and nothing is scheduled. -/
structure Pages.IsOver (v : Pages) : Prop where
  ended : v.slot.ended = true
  pending : v.slot.pending = none
  scheduled : v.scheduled = none

theorem Pages.IsOver.look_eq {v : Pages} (h : v.IsOver) (now : Instant) : v.look now = (v, []) := by
  unfold Pages.look
  rw [TurnSlot.look_of_empty h.pending]

namespace Practice

variable {p : Practice}

/-- A slot that has ended arms no turn, and other intents leave the slot and the scheduled turn
    alone. -/
theorem pages_isOver_act (h : p.pages.IsOver) (step : PracticeStep) :
    (p.act step).1.pages.IsOver := by
  cases step with
  | intent intent =>
    -- a slot that has ended arms nothing, so the intent keeps its turn
    have hkept : p.assistant.KeepsTurn (p.assistant.carryOut p.clock intent).1 :=
      Assistant.keepsTurn_carryOut (Assistant.arms?_of_ended h.ended)
    exact ⟨hkept.ended.trans h.ended, hkept.pending.trans h.pending,
      hkept.scheduled.trans h.scheduled⟩
  | showPage =>
    rw [(p.sides_act .showPage).2]
    unfold Pages.act
    dsimp only
    split
    · exact h
    · exact ⟨h.ended, h.pending, h.scheduled⟩
  | shutdown => exact ⟨rfl, rfl, rfl⟩
  | forgetScheduled => exact ⟨h.ended, h.pending, rfl⟩
  | load pager => exact ⟨h.ended, h.pending, h.scheduled⟩
  | advance distance times => exact h
  | nothing => exact h

theorem pages_isOver_undergo (h : p.pages.IsOver) (what : Happening) :
    (p.undergo what).1.pages.IsOver := by
  cases what with
  | act step => exact pages_isOver_act h step
  | lookAtTurn =>
    rw [(p.pages_undergo .lookAtTurn).1]
    show (p.pages.look p.clock).1.IsOver
    rw [h.look_eq]
    exact h
  | pass time => exact h
  | lookAtTicks => exact h
  | read => exact h

/-! ## A session that is over -/

/-- Both sides are over. -/
structure IsOver (p : Practice) : Prop where
  beat : p.beat.IsOver
  pages : p.pages.IsOver

/-- **Shutdown**: from then on the session is over. -/
theorem isOver_shutdown (p : Practice) : IsOver (p.act .shutdown).1 := by
  obtain ⟨hbeat, hpages⟩ := p.sides_act .shutdown
  constructor
  · rw [hbeat]
    rfl
  · rw [hpages]
    exact ⟨rfl, rfl, rfl⟩

/-- **Step**: a session that is over stays so. -/
theorem isOver_undergo (h : IsOver p) (what : Happening) : IsOver (p.undergo what).1 := by
  constructor
  · rw [(p.beat_undergo what).1]
    exact h.beat.undergo what
  · exact pages_isOver_undergo h.pages what

theorem isOver_after (h : IsOver p) (whats : List Happening) : IsOver (p.after whats) := by
  induction whats generalizing p with
  | nil => exact h
  | cons what whats ih => exact ih (isOver_undergo h what)

/-- **Run**: a session that is over stays so, whatever steps are taken. -/
theorem isOver_afterSteps (h : IsOver p) (steps : List PracticeStep) :
    IsOver (p.afterSteps steps) := by
  induction steps generalizing p with
  | nil => exact h
  | cons step steps ih =>
    have hstep : IsOver (p.step step).1 := by
      rw [step_eq_live]
      exact isOver_after h step.happenings
    exact ih hstep

/-! ## What is left to happen -/

/-- The background does nothing when the session is over. -/
theorem look_of_isOver (h : IsOver p) : p.look = (p, .none) := by
  have hticks : p.lookAtTicks = (p, []) := by
    have hended : p.assistant.session.metronome.ended = true := h.beat
    unfold lookAtTicks
    rw [Metronome.look_of_ended hended]
    rfl
  -- nothing waits that could fire
  have hturn : p.lookAtTurn = (p, []) := by
    have hpending : p.assistant.slot.pending = none := h.pages.pending
    unfold lookAtTurn
    rw [TurnSlot.look_of_empty hpending]
  unfold look
  rw [hticks]
  dsimp only
  rw [hturn]
  rfl

theorem jumps_of_isOver (h : IsOver p) (distance : Duration) (n : Nat) :
    p.jumps distance n = ({ p with clock := p.clock + n * distance }, .none) := by
  induction n generalizing p with
  | zero =>
    rw [Nat.zero_mul]
    rfl
  | succ n ih =>
    have hnext : IsOver { p with clock := p.clock + distance } := ⟨h.beat, h.pages⟩
    unfold jumps
    rw [look_of_isOver hnext]
    dsimp only
    -- each look leaves only the clock moved on
    rw [ih hnext]
    have hclock : p.clock + distance + n * distance = p.clock + (n + 1) * distance := by
      rw [Nat.succ_mul, Nat.add_assoc, Nat.add_comm distance]
    rw [hclock]
    rfl

theorem step_of_isOver (h : IsOver p) {s : PracticeStep}
    (hnot : ∀ distance times, s ≠ .advance distance times) : p.step s = p.act s := by
  have hact : ((p.act s).1.look.1, (p.act s).2.followedBy (p.act s).1.look.2) = p.act s := by
    have hover : IsOver (p.act s).1 := isOver_undergo h (.act s)
    rw [look_of_isOver hover]
    simp [PracticeEvents.followedBy, PracticeEvents.none]
  cases s with
  | advance distance times => exact absurd rfl (hnot distance times)
  | _ => exact hact

/-- A page turn that is asked for with a score at hand is refused. It uses up a number of the slot,
    which nobody will see. -/
theorem step_schedule_of_isOver (h : IsOver p) {pager : Pager}
    (hpager : p.assistant.session.pager = some pager) (bars : Nat) :
    p.step (.intent (.schedulePageTurn (some (bars + 1)))) =
      (p.withNextId (p.assistant.slot.nextId + 1),
        { PracticeEvents.none with response := some .turnRefused }) := by
  have hended : p.assistant.slot.ended = true := h.pages.ended
  -- the slot refuses, but has used up a number
  have hrefused : p.assistant.scheduleTurn p.clock (bars + 1) =
      (p.assistant.withNextId (p.assistant.slot.nextId + 1), .turnRefused) := by
    unfold Assistant.scheduleTurn
    simp only [hpager, TurnSlot.arm_of_ended hended]
    rfl
  rw [step_of_isOver h (by intro distance times hadvance; cases hadvance)]
  show ({ p with assistant := (p.assistant.scheduleTurn p.clock (bars + 1)).1 },
    { PracticeEvents.none with
      response := some (p.assistant.scheduleTurn p.clock (bars + 1)).2 }) = _
  rw [hrefused]
  rfl

/-! ## The shutdown and what follows it -/

/-- The second session is the first one after its shutdown: the transport and the tick loop have
    stopped, no turn is scheduled and none waits, and one more change was counted. All else is as it
    was. -/
structure OnlyEnds (p q : Practice) : Prop where
  /-- Tempo, subdivision, page and taps stay. -/
  session : q.assistant.session =
    { p.assistant.session with
      metronome := { p.assistant.session.metronome with running := false, ended := true }
      scheduled := none
      version := p.assistant.session.version + 1 }
  /-- No turn waits. -/
  pending : q.assistant.slot.pending = none
  /-- The viewer was asked for nothing. -/
  viewer : q.assistant.viewer = p.assistant.viewer
  /-- It is the same time. -/
  clock : q.clock = p.clock
  /-- No tick was produced. -/
  queue : q.queue = p.queue

/-- Nothing happens but what the musician does. -/
structure Silent (p : Practice) : Prop where
  /-- No step brings a tick about. -/
  ticks : ∀ step, (p.step step).2.ticks = []
  /-- No step brings an announcement about. -/
  announced : ∀ step, (p.step step).2.announced = []
  /-- Time passes and changes nothing but the clock, so no turn moves the page. -/
  advance : ∀ distance times, (p.step (.advance distance times)).1 =
    { p with clock := p.clock + times * distance }
  /-- Any other step does what it does by itself. -/
  step_eq : ∀ step, (∀ distance times, step ≠ .advance distance times) → p.step step = p.act step
  /-- A turn whose time has come, but which comes too late, is not carried out. -/
  fire : ∀ turn, p.assistant.fire turn = (p.assistant, none)
  /-- No turn is scheduled. -/
  scheduled : p.assistant.session.scheduled = none
  /-- A turn that is asked for with a score at hand is refused, and all is as before. -/
  refused : ∀ bars pager, 0 < bars → p.assistant.session.pager = some pager →
    (p.step (.intent (.schedulePageTurn (some bars)))).2 =
        { PracticeEvents.none with
          response := some (.say "Sorry, I couldn't schedule that.") } ∧
      AsBefore p (p.step (.intent (.schedulePageTurn (some bars)))).1

theorem silent_of_isOver (h : IsOver p) : Silent p := by
  -- only a jump of the clock is followed by more than one look
  have hfired : ∀ step : PracticeStep, (p.step step).2.ticks = [] ∧
      (p.step step).2.announced = [] := by
    intro step
    by_cases hadvance : ∃ distance times, step = .advance distance times
    · obtain ⟨distance, times, rfl⟩ := hadvance
      show (p.jumps distance times).2.ticks = [] ∧ (p.jumps distance times).2.announced = []
      rw [jumps_of_isOver h]
      exact ⟨rfl, rfl⟩
    · rw [step_of_isOver h fun distance times hstep => hadvance ⟨distance, times, hstep⟩]
      exact p.quiet_act step
  constructor
  · exact fun step => (hfired step).1
  · exact fun step => (hfired step).2
  · intro distance times
    show (p.jumps distance times).1 = _
    rw [jumps_of_isOver h]
  · intro step hnot
    exact step_of_isOver h hnot
  · intro turn
    -- no turn is scheduled, so none that comes late takes effect
    have hscheduled : p.assistant.session.scheduled = none := h.pages.scheduled
    have hnone : ¬ p.assistant.session.isScheduled turn.id = true := by
      unfold Session.isScheduled
      rw [hscheduled]
      exact Bool.false_ne_true
    unfold Assistant.fire
    rw [if_neg hnone]
  · exact h.pages.scheduled
  · intro bars pager hbars hpager
    cases bars with
    | zero => exact absurd hbars (Nat.lt_irrefl 0)
    | succ bars =>
      rw [step_schedule_of_isOver h hpager]
      exact ⟨rfl, asBefore_withNextId p _⟩

/-- **Silence after the shutdown**: whatever session is shut down, with a turn that waits or is due
    already, the shutdown only ends what runs in the background and forgets the scheduled turn, and
    nothing comes of it. Whatever steps are taken afterwards, no step brings a tick or an
    announcement about, no turn moves the page, none is scheduled, and a turn that is asked for is
    refused without effect. -/
theorem silent_after_shutdown (p : Practice) :
    OnlyEnds p (p.step .shutdown).1 ∧ (p.step .shutdown).2 = .none ∧
      ∀ later, Silent ((p.step .shutdown).1.afterSteps later) := by
  have hover := p.isOver_shutdown
  have hstep : p.step .shutdown = ((p.act .shutdown).1, .none) := by
    show ((p.act .shutdown).1.look.1, (p.act .shutdown).2.followedBy (p.act .shutdown).1.look.2) = _
    rw [look_of_isOver hover]
    rfl
  rw [hstep]
  refine ⟨⟨rfl, rfl, rfl, rfl, rfl⟩, rfl, ?_⟩
  intro later
  exact silent_of_isOver (isOver_afterSteps hover later)

/-- The turn has been due for long when the session is shut down, and the page stays. -/
example :
    let p := (start (.start (.start (.atTempo .initial) (some (.ofPath "etude.pdf")))
      false)).afterSteps [.intent .startMetronome, .intent (.schedulePageTurn (some 1))]
    ((({ p with clock := Duration.ofSeconds 60 } : Practice).step .shutdown).1.afterSteps
      [.intent .startMetronome, .advance (.ofSeconds 60) 2]).assistant.session.page? = some 1 := by
  decide +kernel

end Practice

end Rehearsal
