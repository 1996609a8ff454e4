import Rehearsal.Proofs.Session.Happenings

/-! # The two sides of a session

  A session has two sides: the *beat*, which is the metronome with the recent taps, and the *pages*,
  which are the score with the turn that waits and the viewer. Whatever happens to a session happens
  to each side by itself:

  - what becomes of the beat depends on the beat and the time alone (`beat_undergo`);
  - the pages look across at one place only: a turn that is asked for waits for some bars at the
    beats per minute of the moment (`pages_undergo`).

  So what one side keeps can be proved on that side, and what concerns both follows from the two.
-/

namespace Rehearsal

/-- The metronome with the recent taps. -/
structure Beat where
  metronome : Metronome
  taps : Taps
  deriving DecidableEq, Repr

/-- The score with the turn that waits and the viewer. -/
structure Pages where
  pager : Option Pager
  /-- The page turn that was asked for last and is still to come. -/
  scheduled : Option PageTurn
  slot : TurnSlot
  viewer : Viewer
  deriving DecidableEq, Repr

def Assistant.beat (a : Assistant) : Beat := ⟨a.session.metronome, a.session.taps⟩

def Assistant.pages (a : Assistant) : Pages :=
  ⟨a.session.pager, a.session.scheduled, a.slot, a.viewer⟩

/-! ## The beat by itself -/

namespace Beat

/-- One more tap, and the tempo that follows from the taps if one does. -/
def tap (b : Beat) (now : Instant) : Beat :=
  match (b.taps.tap now).bpm? with
  | some bpm => ⟨b.metronome.setBpm bpm, b.taps.tap now⟩
  | none => { b with taps := b.taps.tap now }

def carryOut (b : Beat) (now : Instant) : Intent → Beat
  | .startMetronome => { b with metronome := b.metronome.start.1 }
  | .stopMetronome => { b with metronome := b.metronome.stop.1 }
  | .tapTempo => b.tap now
  | .setTempo (some bpm) => ⟨b.metronome.setBpm bpm, .empty⟩
  | .adjustTempo delta .up => ⟨b.metronome.increase (delta.getD Assistant.defaultStep), .empty⟩
  | .adjustTempo delta .down => ⟨b.metronome.decrease (delta.getD Assistant.defaultStep), .empty⟩
  | .setSubdivision (some s) => { b with metronome := b.metronome.setSubdivision s }
  | .setTempo none | .setSubdivision none | .queryTempo | .nextPage | .prevPage | .gotoPage _
  | .schedulePageTurn _ | .help | .quit | .unknown => b

def act (b : Beat) (now : Instant) : PracticeStep → Beat
  | .intent intent => b.carryOut now intent
  | .shutdown => { b with metronome := b.metronome.shutdown }
  | .advance .. | .showPage | .forgetScheduled | .load _ | .nothing => b

def look (b : Beat) (now : Instant) : Beat × List Tick :=
  ({ b with metronome := (b.metronome.look now).1 }, (b.metronome.look now).2.toList)

/-- What a happening does to the beat, and the ticks that come of it. -/
def undergo (b : Beat) (now : Instant) : Happening → Beat × List Tick
  | .act step => (b.act now step, [])
  | .lookAtTicks => b.look now
  | .pass _ | .lookAtTurn | .read => (b, [])

end Beat

/-! ## The pages by themselves -/

namespace Pages

def turnTo (v : Pages) (move : Pager → Pager) : Pages :=
  match v.pager with
  | none => v
  | some pager => { v with pager := some (move pager), viewer := v.viewer.showPage (move pager) }

/-- Ask for a turn after some bars at a tempo. -/
def schedule (v : Pages) (bpm : Nat) (now : Instant) (bars : Nat) : Pages :=
  match v.pager with
  | none => v
  | some _ =>
    match v.slot.arm now (timeOfBars bars bpm) bars with
    | (slot, .ok turn) => { v with slot, scheduled := some turn }
    | (slot, .error _) => { v with slot }

/-- What an intent does to the pages, at the tempo of the moment. -/
def carryOut (v : Pages) (bpm : Nat) (now : Instant) : Intent → Pages
  | .nextPage => v.turnTo Pager.next
  | .prevPage => v.turnTo Pager.prev
  | .gotoPage (some page) => v.turnTo (·.goto page)
  | .schedulePageTurn (some (bars + 1)) => v.schedule bpm now (bars + 1)
  | .gotoPage none | .schedulePageTurn none | .schedulePageTurn (some 0) | .startMetronome
  | .stopMetronome | .tapTempo | .queryTempo | .setTempo _ | .adjustTempo .. | .setSubdivision _
  | .help | .quit | .unknown => v

/-- What a step does to the pages, at the tempo of the moment. -/
def act (v : Pages) (bpm : Nat) (now : Instant) : PracticeStep → Pages
  | .intent intent => v.carryOut bpm now intent
  | .showPage =>
    match v.pager with
    | none => v
    | some pager => { v with viewer := v.viewer.showPage pager }
  | .shutdown => { v with slot := v.slot.cancel.1.shutdown, scheduled := none }
  | .forgetScheduled => { v with scheduled := none }
  | .load pager => { v with pager }
  | .advance .. | .nothing => v

/-- A turn whose time has come, and what is announced of it. -/
def fire (v : Pages) (turn : PageTurn) : Pages × Option String :=
  if v.scheduled.any fun t => t.id == turn.id then
    match v.pager with
    | none => ({ v with scheduled := none }, none)
    | some pager =>
      ({ v with
          pager := some pager.next
          scheduled := none
          viewer := v.viewer.showPage pager.next },
        some (Response.pageIs pager.next.current).text)
  else (v, none)

/-- The turn slot takes one look. -/
def look (v : Pages) (now : Instant) : Pages × List String :=
  match v.slot.look now with
  | (slot, some turn) =>
    ((({ v with slot } : Pages).fire turn).1, (({ v with slot } : Pages).fire turn).2.toList)
  | (slot, none) => ({ v with slot }, [])

theorem slot_fire (v : Pages) (turn : PageTurn) : (v.fire turn).1.slot = v.slot := by
  unfold fire
  split
  · split
    · rfl
    · rfl
  · rfl

theorem slot_look (v : Pages) (now : Instant) :
    (v.look now).1.slot = (v.slot.look now).1 := by
  unfold look
  split
  · rename_i slot turn hlook
    rw [hlook]
    exact slot_fire _ turn
  · rename_i slot hlook
    rw [hlook]

/-- What a happening does to the pages, at the tempo of the moment, and what is announced. -/
def undergo (v : Pages) (bpm : Nat) (now : Instant) : Happening → Pages × List String
  | .act step => (v.act bpm now step, [])
  | .lookAtTurn => v.look now
  | .pass _ | .lookAtTicks | .read => (v, [])

end Pages

/-! ## Intents -/

namespace Assistant

theorem sides_startMetronome (a : Assistant) :
    a.startMetronome.1.beat = { a.beat with metronome := a.session.metronome.start.1 } ∧
      a.startMetronome.1.pages = a.pages := by
  unfold startMetronome Metronome.start
  by_cases h : a.session.metronome.running = true
  · rw [if_pos h]
    exact ⟨rfl, rfl⟩
  · rw [if_neg h]
    exact ⟨rfl, rfl⟩

theorem sides_stopMetronome (a : Assistant) :
    a.stopMetronome.1.beat = { a.beat with metronome := a.session.metronome.stop.1 } ∧
      a.stopMetronome.1.pages = a.pages := by
  unfold stopMetronome Metronome.stop
  cases h : a.session.metronome.running with
  | true => exact ⟨rfl, rfl⟩
  | false =>
    have hsame : { a.session.metronome with running := false } = a.session.metronome := by rw [← h]
    rw [hsame]
    exact ⟨rfl, rfl⟩

theorem sides_tapTempo (a : Assistant) (now : Instant) :
    (a.tapTempo now).1.beat = a.beat.tap now ∧ (a.tapTempo now).1.pages = a.pages := by
  unfold tapTempo Beat.tap
  cases h : (a.session.taps.tap now).bpm? with
  | none => simp [beat, pages, h]
  | some bpm => simp [beat, pages, h, change, Session.bump]

theorem sides_turnTo (a : Assistant) (move : Pager → Pager) :
    (a.turnTo move).1.beat = a.beat ∧ (a.turnTo move).1.pages = a.pages.turnTo move := by
  unfold turnTo Pages.turnTo
  cases h : a.session.pager with
  | none => simp [pages, h]
  | some pager => simp [beat, pages, h, change, Session.bump]

theorem sides_scheduleTurn (a : Assistant) (now : Instant) (bars : Nat) :
    (a.scheduleTurn now bars).1.beat = a.beat ∧
      (a.scheduleTurn now bars).1.pages =
        a.pages.schedule a.session.metronome.tempo.bpm now bars := by
  unfold scheduleTurn Pages.schedule
  cases h : a.session.pager with
  | none => simp [pages, h]
  | some pager =>
    cases harm : a.slot.arm now (timeOfBars bars a.session.metronome.tempo.bpm) bars with
    | mk slot result =>
      cases result with
      | ok turn => simp [beat, pages, h, harm, change, Session.bump]
      | error failure => simp [beat, pages, h, harm]

/-- **Intents** act on each side by itself. -/
theorem sides_carryOut (a : Assistant) (now : Instant) (intent : Intent) :
    (a.carryOut now intent).1.beat = a.beat.carryOut now intent ∧
      (a.carryOut now intent).1.pages =
        a.pages.carryOut a.session.metronome.tempo.bpm now intent := by
  match intent with
  | .startMetronome => exact a.sides_startMetronome
  | .stopMetronome => exact a.sides_stopMetronome
  | .tapTempo => exact a.sides_tapTempo now
  | .nextPage => exact a.sides_turnTo Pager.next
  | .prevPage => exact a.sides_turnTo Pager.prev
  | .gotoPage (some page) => exact a.sides_turnTo (·.goto page)
  | .schedulePageTurn (some (bars + 1)) => exact a.sides_scheduleTurn now (bars + 1)
  | .setTempo (some bpm) => exact ⟨rfl, rfl⟩
  | .adjustTempo delta .up => exact ⟨rfl, rfl⟩
  | .adjustTempo delta .down => exact ⟨rfl, rfl⟩
  | .setSubdivision (some s) => exact ⟨rfl, rfl⟩
  -- what is only answered acts on neither side
  | .queryTempo => exact ⟨rfl, rfl⟩
  | .setTempo none => exact ⟨rfl, rfl⟩
  | .setSubdivision none => exact ⟨rfl, rfl⟩
  | .gotoPage none => exact ⟨rfl, rfl⟩
  | .schedulePageTurn none => exact ⟨rfl, rfl⟩
  | .schedulePageTurn (some 0) => exact ⟨rfl, rfl⟩
  | .help => exact ⟨rfl, rfl⟩
  | .quit => exact ⟨rfl, rfl⟩
  | .unknown => exact ⟨rfl, rfl⟩

theorem sides_fire (a : Assistant) (turn : PageTurn) :
    (a.fire turn).1.beat = a.beat ∧
      ((a.fire turn).1.pages, (a.fire turn).2) = a.pages.fire turn := by
  unfold fire Pages.fire
  by_cases hscheduled : a.session.isScheduled turn.id = true
  · rw [if_pos hscheduled, if_pos (show a.pages.scheduled.any _ = true from hscheduled)]
    cases h : a.session.pager with
    | none => simp [beat, pages, h]
    | some pager => simp [beat, pages, h, change, Session.bump]
  · rw [if_neg hscheduled, if_neg (show ¬ a.pages.scheduled.any _ = true from hscheduled)]
    exact ⟨rfl, rfl⟩

end Assistant

/-! ## Happenings -/

/-- How much time a happening takes. -/
def Happening.duration : Happening → Duration
  | .pass time => time
  | .act _ | .lookAtTicks | .lookAtTurn | .read => 0

namespace Practice

def beat (p : Practice) : Beat := p.assistant.beat

def pages (p : Practice) : Pages := p.assistant.pages

variable {p : Practice}

theorem sides_act (p : Practice) (step : PracticeStep) :
    (p.act step).1.beat = p.beat.act p.clock step ∧
      (p.act step).1.pages = p.pages.act p.beat.metronome.tempo.bpm p.clock step := by
  cases step with
  | intent intent => exact p.assistant.sides_carryOut p.clock intent
  | showPage =>
    show p.assistant.showCurrent.1.beat = _ ∧ p.assistant.showCurrent.1.pages = _
    unfold Assistant.showCurrent Pages.act
    cases h : p.assistant.session.pager with
    | none => simp [beat, Beat.act, pages, Assistant.pages, h]
    | some pager => simp [beat, Beat.act, Assistant.beat, pages, Assistant.pages, h]
  | advance distance times => exact ⟨rfl, rfl⟩
  | shutdown => exact ⟨rfl, rfl⟩
  | forgetScheduled => exact ⟨rfl, rfl⟩
  | load pager => exact ⟨rfl, rfl⟩
  | nothing => exact ⟨rfl, rfl⟩

theorem quiet_act (p : Practice) (step : PracticeStep) :
    (p.act step).2.ticks = [] ∧ (p.act step).2.announced = [] := by
  cases step <;> exact ⟨rfl, rfl⟩

theorem clock_act (p : Practice) (step : PracticeStep) : (p.act step).1.clock = p.clock := by
  cases step <;> rfl

/-- A look of the turn slot concerns the pages alone. -/
theorem sides_lookAtTurn (p : Practice) :
    p.lookAtTurn.1.beat = p.beat ∧ p.lookAtTurn.1.clock = p.clock ∧
      (p.lookAtTurn.1.pages, p.lookAtTurn.2) = p.pages.look p.clock := by
  unfold lookAtTurn Pages.look
  cases hlook : p.assistant.slot.look p.clock with
  | mk slot fired =>
    have hslot : p.pages.slot.look p.clock = (slot, fired) := hlook
    cases fired with
    | none =>
      rw [hslot]
      exact ⟨rfl, rfl, rfl⟩
    -- the turn fires in the session whose slot has let go of it
    | some turn =>
      obtain ⟨hbeat, hpages⟩ := Assistant.sides_fire { p.assistant with slot } turn
      have hfire : (({ p.pages with slot } : Pages).fire turn) =
          (({ p.assistant with slot }.fire turn).1.pages,
            ({ p.assistant with slot }.fire turn).2) := hpages.symm
      rw [hslot]
      dsimp only
      rw [hfire]
      exact ⟨hbeat, rfl, rfl⟩

/-- **The beat by itself**: what a happening does to the beat, and the ticks that come of it, depend
    on the beat and the time alone. -/
theorem beat_undergo (p : Practice) (what : Happening) :
    (p.undergo what).1.beat = (p.beat.undergo p.clock what).1 ∧
      (p.undergo what).2.events.ticks = (p.beat.undergo p.clock what).2 := by
  cases what with
  | act step => exact ⟨(p.sides_act step).1, (p.quiet_act step).1⟩
  | pass time => exact ⟨rfl, rfl⟩
  | lookAtTicks => exact ⟨rfl, rfl⟩
  | lookAtTurn => exact ⟨p.sides_lookAtTurn.1, rfl⟩
  | read => exact ⟨rfl, rfl⟩

/-- **The pages by themselves**: what a happening does to the pages, and what is announced, depend
    on the pages, the time and the beats per minute alone. -/
theorem pages_undergo (p : Practice) (what : Happening) :
    (p.undergo what).1.pages =
        (p.pages.undergo p.beat.metronome.tempo.bpm p.clock what).1 ∧
      (p.undergo what).2.events.announced =
        (p.pages.undergo p.beat.metronome.tempo.bpm p.clock what).2 := by
  cases what with
  | act step => exact ⟨(p.sides_act step).2, (p.quiet_act step).2⟩
  | pass time => exact ⟨rfl, rfl⟩
  | lookAtTicks => exact ⟨rfl, rfl⟩
  | lookAtTurn => exact ⟨congrArg Prod.fst p.sides_lookAtTurn.2.2,
      congrArg Prod.snd p.sides_lookAtTurn.2.2⟩
  | read => exact ⟨rfl, rfl⟩

theorem clock_undergo (p : Practice) (what : Happening) :
    (p.undergo what).1.clock = p.clock + what.duration := by
  cases what with
  | act step => exact p.clock_act step
  | lookAtTurn => exact p.sides_lookAtTurn.2.1
  | pass time => rfl
  | lookAtTicks => rfl
  | read => rfl

end Practice

end Rehearsal
