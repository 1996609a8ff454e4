import Rehearsal.Proofs.Session.Arming

/-! # The version counts the changes

  A session counts its changes. `Counts` says that the count is right for one step: either the
  count goes up by one, or nothing that is stored has changed. Every step counts in this way but
  for one: a tap from which no tempo follows is stored and not counted.

  That a turn whose time has come counts as well rests on an invariant, `Grounded`: as long as a
  turn is scheduled there is a score whose page it turns.

  Main statement: `version_counts_changes`.
-/

namespace Rehearsal

/-! ## What is stored -/

/-- What a session stores besides the count of its changes. -/
structure Stored where
  tempo : Tempo
  running : Bool
  pager : Option Pager
  scheduled : Option PageTurn
  taps : Taps
  deriving DecidableEq, Repr

namespace Session

def stored (s : Session) : Stored :=
  ⟨s.metronome.tempo, s.metronome.running, s.pager, s.scheduled, s.taps⟩

/-- The second session counts one change more than the first one, or stores the same. -/
def Counts (s t : Session) : Prop :=
  t.version = s.version + 1 ∨ (t.version = s.version ∧ t.stored = s.stored)

theorem Counts.refl (s : Session) : s.Counts s := .inr ⟨rfl, rfl⟩

theorem version_ne_succ (v : UInt64) : v ≠ v + 1 := by simp

end Session

/-! ## Steps -/

/-- What changes a session. -/
inductive SessionStep where
  | intent (now : Instant) (intent : Intent)
  /-- A page turn is fired, be it the scheduled one or one that comes too late. -/
  | fire (turn : PageTurn)
  /-- Everything that runs in the background is ended. -/
  | shutdown
  deriving DecidableEq, Repr

namespace Assistant

def take (a : Assistant) : SessionStep → Assistant
  | .intent now intent => (a.carryOut now intent).1
  | .fire turn => (a.fire turn).1
  | .shutdown => a.shutdown

/-- The step is a tap from which no tempo follows: the first one of a series, or one of taps that
    all fall together. -/
def TapsInVain (a : Assistant) : SessionStep → Prop
  | .intent now .tapTempo => (a.session.taps.tap now).bpm? = none
  | _ => False

/-- The assistants that some steps lead to, in any order. The background takes its looks in
    between. -/
inductive Reached (first : Assistant) : Assistant → Prop where
  | start : Reached first first
  | take {a : Assistant} (step : SessionStep) : Reached first a → Reached first (a.take step)
  | lookAtTicks {a : Assistant} (now : Instant) : Reached first a → Reached first
      { a with session := { a.session with metronome := (a.session.metronome.look now).1 } }
  | letGo {a : Assistant} (now : Instant) :
      Reached first a → Reached first { a with slot := (a.slot.look now).1 }

variable {a : Assistant} {now : Instant}

/-! ## A scheduled turn has a score -/

/-- If a turn is scheduled, there is a score. -/
def Grounded (a : Assistant) : Prop :=
  a.session.scheduled.isSome = true → a.session.pager.isSome = true

theorem Grounded.carryOut (g : Grounded a) (now : Instant) (intent : Intent) :
    Grounded (a.carryOut now intent).1 := by
  cases harms : a.arms? now intent with
  | some turn =>
    -- a turn is armed only where a score is loaded
    obtain ⟨-, -, hpager, -, -⟩ := arms?_eq_some harms
    rw [carryOut_of_arms harms]
    exact fun _ => hpager
  | none =>
    have hkeeps := keepsTurn_carryOut harms
    unfold Grounded
    rw [hkeeps.scheduled, hkeeps.pager]
    exact g

theorem Grounded.fire (g : Grounded a) (turn : PageTurn) : Grounded (a.fire turn).1 := by
  unfold Assistant.fire
  split
  · dsimp only
    split
    · intro h
      cases h
    · intro h
      cases h
  · exact g

theorem Grounded.take (g : Grounded a) (step : SessionStep) : Grounded (a.take step) := by
  cases step with
  | intent now intent => exact g.carryOut now intent
  | fire turn => exact g.fire turn
  | shutdown =>
    intro h
    cases h

theorem Reached.grounded {first : Assistant} (reached : Reached first a) (g : Grounded first) :
    Grounded a := by
  induction reached with
  | start => exact g
  | take step _ ih => exact ih.take step
  | lookAtTicks now _ ih => exact ih
  | letGo now _ ih => exact ih

/-! ## Each step counts -/

theorem counts_startMetronome (a : Assistant) :
    a.session.Counts a.startMetronome.1.session := by
  unfold startMetronome
  split
  split
  · exact .inl rfl
  · exact .refl _

theorem counts_stopMetronome (a : Assistant) : a.session.Counts a.stopMetronome.1.session := by
  unfold stopMetronome
  split
  split
  · exact .inl rfl
  · exact .refl _

theorem counts_tapTempo (h : (a.session.taps.tap now).bpm? ≠ none) :
    a.session.Counts (a.tapTempo now).1.session := by
  unfold tapTempo
  cases hbpm : (a.session.taps.tap now).bpm? with
  | none => exact absurd hbpm h
  | some bpm =>
    left
    simp only [hbpm]
    rfl

theorem tapTempo_in_vain (h : (a.session.taps.tap now).bpm? = none) :
    (a.tapTempo now).1.session = { a.session with taps := a.session.taps.tap now } := by
  unfold tapTempo
  simp only [h]

theorem counts_turnTo (a : Assistant) (move : Pager → Pager) :
    a.session.Counts (a.turnTo move).1.session := by
  unfold turnTo
  split
  · exact .refl _
  · exact .inl rfl

/-- A turn that is armed counts, one that is refused changes nothing in the session. -/
theorem counts_scheduleTurn (a : Assistant) (now : Instant) (bars : Nat) :
    a.session.Counts (a.scheduleTurn now bars).1.session := by
  unfold scheduleTurn
  split
  · exact .refl _
  · dsimp only
    split
    · exact .inl rfl
    · exact .refl _

/-- Carrying out an intent counts, unless it is a tap from which no tempo follows. -/
theorem counts_carryOut {intent : Intent} (h : ¬ a.TapsInVain (.intent now intent)) :
    a.session.Counts (a.carryOut now intent).1.session := by
  match intent, h with
  | .startMetronome, _ => exact counts_startMetronome a
  | .stopMetronome, _ => exact counts_stopMetronome a
  | .tapTempo, h => exact counts_tapTempo h
  | .setTempo (some _), _ => exact .inl rfl
  | .adjustTempo _ .up, _ => exact .inl rfl
  | .adjustTempo _ .down, _ => exact .inl rfl
  | .setSubdivision (some _), _ => exact .inl rfl
  | .nextPage, _ => exact counts_turnTo a _
  | .prevPage, _ => exact counts_turnTo a _
  | .gotoPage (some _), _ => exact counts_turnTo a _
  | .schedulePageTurn (some (bars + 1)), _ => exact counts_scheduleTurn a now (bars + 1)
  -- what is only answered changes nothing at all
  | .queryTempo, _ => exact .refl _
  | .setTempo none, _ => exact .refl _
  | .setSubdivision none, _ => exact .refl _
  | .gotoPage none, _ => exact .refl _
  | .schedulePageTurn none, _ => exact .refl _
  | .schedulePageTurn (some 0), _ => exact .refl _
  | .help, _ => exact .refl _
  | .quit, _ => exact .refl _
  | .unknown, _ => exact .refl _

/-- Firing a turn counts if it is the scheduled one, and changes nothing if it is not. -/
theorem counts_fire (g : Grounded a) (turn : PageTurn) :
    a.session.Counts (a.fire turn).1.session := by
  unfold fire
  by_cases hscheduled : a.session.isScheduled turn.id = true
  · rw [if_pos hscheduled]
    -- a scheduled turn has a score, so the page is turned and counted once
    have hsome : a.session.scheduled.isSome = true := by
      cases h : a.session.scheduled with
      | none => simp [Session.isScheduled, h] at hscheduled
      | some other => rfl
    obtain ⟨pager, hpager⟩ := Option.isSome_iff_exists.1 (g hsome)
    simp only [hpager]
    exact .inl rfl
  · rw [if_neg hscheduled]
    exact .refl _

/-- **Step**: whatever is no tap in vain counts. -/
theorem counts_take (g : Grounded a) {step : SessionStep} (h : ¬ a.TapsInVain step) :
    a.session.Counts (a.take step).session := by
  cases step with
  | intent now intent => exact counts_carryOut h
  | fire turn => exact counts_fire g turn
  | shutdown => exact .inl rfl

theorem take_in_vain {step : SessionStep} (h : a.TapsInVain step) :
    ∃ taps, (a.take step).session = { a.session with taps } := by
  match step, h with
  | .intent now .tapTempo, h => exact ⟨_, tapTempo_in_vain h⟩

/-! ## The count is right -/

/-- **Counted changes**: take a new session, with a score or without, and anything that comes of
    it. A step that changes what is stored adds exactly one to the version, unless it is a tap from
    which no tempo follows; such a tap leaves everything but the taps as it was, the version
    included. No step adds more than one. -/
theorem version_counts_changes {metronome : Metronome} {pager : Option Pager} {failing : Bool}
    {a : Assistant} (reached : Reached (.start (.start metronome pager) failing) a)
    (step : SessionStep) :
    ((a.take step).session.stored ≠ a.session.stored →
      ((a.take step).session.version = a.session.version + 1 ↔ ¬ a.TapsInVain step)) ∧
      (a.TapsInVain step → ∃ taps, (a.take step).session = { a.session with taps }) ∧
      ((a.take step).session.version = a.session.version ∨
        (a.take step).session.version = a.session.version + 1) := by
  -- nothing is scheduled at the start
  have g : Grounded a := by
    refine reached.grounded ?_
    intro h
    cases h
  -- a tap in vain is the one change that is not counted
  by_cases hvain : a.TapsInVain step
  · obtain ⟨taps, htaps⟩ := take_in_vain hvain
    have hversion : (a.take step).session.version = a.session.version := by rw [htaps]
    refine ⟨?_, fun _ => ⟨taps, htaps⟩, .inl hversion⟩
    intro _
    rw [hversion]
    exact ⟨fun h => absurd h (Session.version_ne_succ _), fun h => absurd hvain h⟩
  · rcases counts_take g hvain with hsucc | ⟨hsame, hstored⟩
    · exact ⟨fun _ => ⟨fun _ => hvain, fun _ => hsucc⟩, fun h => absurd h hvain, .inr hsucc⟩
    · exact ⟨fun h => absurd hstored h, fun h => absurd h hvain, .inl hsame⟩

/-- A scheduled turn that is fired is one change. -/
theorem version_counts_changes_fired :
    ∃ (a : Assistant) (turn : PageTurn),
      Reached (.start (.start (.atTempo .initial) (some (.ofPath "etude.pdf"))) false) a ∧
        (a.take (.fire turn)).session.stored ≠ a.session.stored ∧
        (a.take (.fire turn)).session.version = a.session.version + 1 := by
  let first : Assistant := .start (.start (.atTempo .initial) (some (.ofPath "etude.pdf"))) false
  let a : Assistant := first.take (.intent 5 (.schedulePageTurn (some 2)))
  let long := timeOfBars 2 Tempo.initial.bpm
  let turn : PageTurn := ⟨1, long, 5 + long, 2⟩
  have reached : Reached first a := Reached.start.take _
  have hstored : (a.take (.fire turn)).session.stored ≠ a.session.stored := by
    intro h
    -- the page is another one
    cases congrArg Stored.pager h
  exact ⟨a, turn, reached, hstored,
    ((version_counts_changes reached (.fire turn)).1 hstored).2 id⟩

/-- The first tap is stored and not counted. -/
theorem version_eq_of_first_tap :
    ((start (.start (.atTempo .initial) none) false).take (.intent 0 .tapTempo)).session.stored ≠
        (start (.start (.atTempo .initial) none) false).session.stored ∧
      ((start (.start (.atTempo .initial) none) false).take (.intent 0 .tapTempo)).session.version =
        (start (.start (.atTempo .initial) none) false).session.version := by
  refine ⟨?_, rfl⟩
  intro h
  cases congrArg Stored.taps h

end Assistant

end Rehearsal
