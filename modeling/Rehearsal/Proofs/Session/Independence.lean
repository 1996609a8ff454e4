import Rehearsal.Proofs.Session.Arming
import Rehearsal.Proofs.Session.ValueRange

/-! # The metronome and the pages are independent

  Two runs of a session are compared. The second one leaves out some steps of the first.

  - If the steps left out only start, stop or subdivide the beat, or only ask, then every other step
    does the same to the pages.
  - If the steps left out only turn, show, load or forget pages, then every other step does the same
    to the beat, and the same ticks come of it.

  Each half rests on a *view* of the session, which is what one side depends on. A view goes its own
  way: what becomes of it depends on nothing but the view (`Autonomous`). So the two runs have the
  same view throughout if a step that is left out would not have changed it. Such a step is followed
  by two looks like any other. They change nothing, since all that was due has been done by the step
  before (`Rested`).

  The view of the pages holds the beats per minute and the taps as well, since a turn is asked for
  in bars. That is why a change of the tempo cannot be left out.

  Main statement: `lifecycles_independent`.
-/

namespace Rehearsal

/-! ## Runs that leave out steps -/

/-- The second list is the first one without some entries, all of which may be left out. -/
inductive Thinned {α : Type} (May : α → Prop) : List α → List α → Prop where
  | nil : Thinned May [] []
  | keep {xs ys : List α} (x : α) : Thinned May xs ys → Thinned May (x :: xs) (x :: ys)
  | leaveOut {xs ys : List α} {x : α} : May x → Thinned May xs ys → Thinned May (x :: xs) ys

namespace PracticeStep

/-- The steps that start, stop or subdivide the beat, or only ask. -/
inductive IsOfBeat : PracticeStep → Prop where
  /-- The metronome is started. -/
  | startMetronome : IsOfBeat (.intent .startMetronome)
  /-- The metronome is stopped. -/
  | stopMetronome : IsOfBeat (.intent .stopMetronome)
  /-- The beat is subdivided, or asked how. -/
  | setSubdivision (s : Option Subdivision) : IsOfBeat (.intent (.setSubdivision s))
  /-- The tempo is only asked for. -/
  | queryTempo : IsOfBeat (.intent .queryTempo)
  /-- Help is only asked for. -/
  | help : IsOfBeat (.intent .help)
  /-- Nothing was understood. -/
  | unknown : IsOfBeat (.intent .unknown)

/-- The steps that turn, show, load or forget pages. -/
inductive IsOfPages : PracticeStep → Prop where
  /-- The page is turned. -/
  | nextPage : IsOfPages (.intent .nextPage)
  /-- The page is turned back. -/
  | prevPage : IsOfPages (.intent .prevPage)
  /-- A page is opened, or asked for. -/
  | gotoPage (page : Option Nat) : IsOfPages (.intent (.gotoPage page))
  /-- A turn is scheduled, or asked when. -/
  | schedulePageTurn (bars : Option Nat) : IsOfPages (.intent (.schedulePageTurn bars))
  /-- The page is shown. -/
  | showPage : IsOfPages .showPage
  /-- Another score is loaded, or none. -/
  | load (pager : Option Pager) : IsOfPages (.load pager)
  /-- The scheduled turn is forgotten. -/
  | forgetScheduled : IsOfPages .forgetScheduled

variable {s : PracticeStep}

theorem IsOfBeat.happenings_eq (h : s.IsOfBeat) :
    s.happenings = [.act s, .lookAtTicks, .lookAtTurn] := by
  cases h <;> rfl

theorem IsOfPages.happenings_eq (h : s.IsOfPages) :
    s.happenings = [.act s, .lookAtTicks, .lookAtTurn] := by
  cases h <;> rfl

/-- A step ends with both looks, unless nothing happens in it. -/
theorem happenings_end (s : PracticeStep) :
    s.happenings = [] ∨ ∃ front, s.happenings = front ++ [.lookAtTicks, .lookAtTurn] := by
  cases s with
  | advance distance times =>
    cases times with
    | zero => exact .inl rfl
    | succ times =>
      right
      refine ⟨(List.replicate times [.pass distance, .lookAtTicks, .lookAtTurn]).flatten ++
        [.pass distance], ?_⟩
      show (List.replicate (times + 1) _).flatten = _
      rw [List.replicate_succ', List.flatten_concat, List.append_assoc]
      rfl
  | intent intent => exact .inr ⟨[.act (.intent intent)], rfl⟩
  | showPage => exact .inr ⟨[.act .showPage], rfl⟩
  | shutdown => exact .inr ⟨[.act .shutdown], rfl⟩
  | forgetScheduled => exact .inr ⟨[.act .forgetScheduled], rfl⟩
  | load pager => exact .inr ⟨[.act (.load pager)], rfl⟩
  | nothing => exact .inr ⟨[.act .nothing], rfl⟩

end PracticeStep

/-! ## What others see of a step -/

/-- What is seen of the pages when a step has been taken. -/
structure PagesSight where
  pager : Option Pager
  /-- The page turn that was asked for last and is still to come. -/
  scheduled : Option PageTurn
  /-- The page turn that waits, with its number, how long it waits and when it is due. -/
  pending : Option PageTurn
  /-- What the viewer was asked to show in the step. -/
  shown : List PageView
  announced : List String
  deriving DecidableEq, Repr

/-- What is seen of the beat when a step has been taken. -/
structure BeatSight where
  tempo : Tempo
  running : Bool
  taps : Taps
  ticks : List Tick
  deriving DecidableEq, Repr

namespace Practice

/-- What is seen of the pages when one more step has been taken. -/
def pagesSight (p : Practice) (s : PracticeStep) : PagesSight where
  pager := (p.step s).1.assistant.session.pager
  scheduled := (p.step s).1.assistant.session.scheduled
  pending := (p.step s).1.assistant.slot.pending
  shown := (p.step s).1.assistant.viewer.shown.drop p.assistant.viewer.shown.length
  announced := (p.step s).2.announced

/-- What is seen of the beat when one more step has been taken. -/
def beatSight (p : Practice) (s : PracticeStep) : BeatSight where
  tempo := (p.step s).1.assistant.session.metronome.tempo
  running := (p.step s).1.assistant.session.metronome.running
  taps := (p.step s).1.assistant.session.taps
  ticks := (p.step s).2.ticks

end Practice

/-! ## Views -/

namespace Sight

theorem ticks_eventsOf (sights : List Sight) :
    (eventsOf sights).ticks = sights.flatMap (·.events.ticks) := by
  induction sights with
  | nil => rfl
  | cons sight sights ih => exact congrArg (sight.events.ticks ++ ·) ih

theorem announced_eventsOf (sights : List Sight) :
    (eventsOf sights).announced = sights.flatMap (·.events.announced) := by
  induction sights with
  | nil => rfl
  | cons sight sights ih => exact congrArg (sight.events.announced ++ ·) ih

end Sight

namespace Practice

variable {α β : Type} {view : Practice → α} {heard : Sight → List β} {p q : Practice}
  {s : PracticeStep}

/-- A view goes its own way: what becomes of it, and what is heard meanwhile, depends on nothing
    but the view. -/
structure Autonomous (view : Practice → α) (heard : Sight → List β) : Prop where
  /-- The view after a happening depends on the view before it. -/
  view_eq : ∀ {p q : Practice} (what : Happening), view p = view q →
    view (p.undergo what).1 = view (q.undergo what).1
  heard_eq : ∀ {p q : Practice} (what : Happening), view p = view q →
    heard (p.undergo what).2 = heard (q.undergo what).2

theorem Autonomous.live (h : Autonomous view heard) (hsame : view p = view q)
    (whats : List Happening) :
    view (p.after whats) = view (q.after whats) ∧
      (p.seen whats).flatMap heard = (q.seen whats).flatMap heard := by
  induction whats generalizing p q with
  | nil => exact ⟨hsame, rfl⟩
  | cons what whats ih =>
    obtain ⟨hview, hrest⟩ := ih (h.view_eq what hsame)
    refine ⟨hview, ?_⟩
    simp only [seen_cons, List.flatMap_cons, h.heard_eq what hsame, hrest]

theorem Autonomous.step (h : Autonomous view heard) (hsame : view p = view q)
    (s : PracticeStep) : view (p.step s).1 = view (q.step s).1 := by
  rw [step_eq_live, step_eq_live]
  exact (h.live hsame s.happenings).1

/-! ## Rested sessions -/

/-- All that was due has been done, so another look would change nothing. -/
structure Rested (p : Practice) : Prop where
  inRange : p.beat.InRange p.clock
  /-- No tick is due, and the loop knows what it waits for. -/
  beat : p.beat.look p.clock = (p.beat, [])
  pages : p.pages.look p.clock = (p.pages, [])

end Practice

namespace Metronome

variable {m : Metronome} {now due : Instant}

/-- A look before the next tick is due changes nothing, if the loop knows what it waits for. -/
theorem look_of_waiting (hended : m.ended = false) (hrunning : m.running = true)
    (hseen : m.loop.seenStarts = m.starts) (hdue : m.loop.nextDue = some due) (hlt : now < due) :
    m.look now = (m, none) := by
  have hnoticed : m.noticed = m.loop := if_pos hseen
  have hsame : { m.loop with nextDue := some due } = m.loop := by rw [← hdue]
  rw [look_of_running hended hrunning, hnoticed, hdue]
  rw [Option.getD_some, if_pos hlt, hsame]

/-- The next tick is still to come when the loop has just been looked at. -/
theorem look_look (h : 0 < m.tempo.interval) (now : Instant) :
    (m.look now).1.look now = ((m.look now).1, none) := by
  cases hended : m.ended with
  | true => rw [look_of_ended hended, look_of_ended hended]
  | false =>
    cases hrunning : m.running with
    | false => simp [look, hended, hrunning]
    | true =>
      rw [look_of_running hended hrunning]
      -- either no tick was due, or one was given and the next is due an interval later
      by_cases hdue : now < m.noticed.nextDue.getD now
      · rw [if_pos hdue]
        exact look_of_waiting hended hrunning m.noticed_seenStarts rfl hdue
      · rw [if_neg hdue]
        have hlater : now < now + m.tempo.interval := Nat.lt_add_of_pos_right h
        exact look_of_waiting hended hrunning m.noticed_seenStarts rfl hlater

end Metronome

theorem Beat.look_look {b : Beat} {now : Instant} (h : b.InRange now) :
    (b.look now).1.look now = ((b.look now).1, []) := by
  have hagain := Metronome.look_look h.tempo.interval_pos now
  unfold Beat.look
  simp only [hagain, Option.toList_none]

theorem TurnSlot.look_look (s : TurnSlot) (now : Instant) :
    (s.look now).1.look now = ((s.look now).1, none) := by
  cases hpending : s.pending with
  | none => rw [TurnSlot.look_of_empty hpending, TurnSlot.look_of_empty hpending]
  | some turn =>
    by_cases hdue : turn.due ≤ now
    · simp [TurnSlot.look, hpending, hdue]
    · simp [TurnSlot.look, hpending, hdue]

theorem Pages.look_look (v : Pages) (now : Instant) :
    (v.look now).1.look now = ((v.look now).1, []) := by
  have hagain : (v.look now).1.slot.look now = ((v.look now).1.slot, none) := by
    rw [Pages.slot_look]
    exact v.slot.look_look now
  generalize (v.look now).1 = w at hagain
  unfold Pages.look
  rw [hagain]

namespace Practice

variable {α β : Type} {view : Practice → α} {heard : Sight → List β} {p q : Practice}
  {s : PracticeStep}

theorem after_looks (p : Practice) :
    (p.after [.lookAtTicks, .lookAtTurn]).clock = p.clock ∧
      (p.after [.lookAtTicks, .lookAtTurn]).beat = (p.beat.look p.clock).1 ∧
      (p.after [.lookAtTicks, .lookAtTurn]).pages = (p.pages.look p.clock).1 := by
  refine ⟨?_, ?_, ?_⟩
  · exact (p.undergo .lookAtTicks).1.clock_undergo .lookAtTurn
  · exact ((p.undergo .lookAtTicks).1.beat_undergo .lookAtTurn).1
  · exact ((p.undergo .lookAtTicks).1.pages_undergo .lookAtTurn).1

theorem rested_looks (h : p.beat.InRange p.clock) :
    Rested (p.after [.lookAtTicks, .lookAtTurn]) := by
  obtain ⟨hclock, hbeat, hpages⟩ := p.after_looks
  refine ⟨beat_inRange_after h _, ?_, ?_⟩
  · rw [hbeat, hclock]
    exact Beat.look_look h
  · rw [hpages, hclock]
    exact Pages.look_look _ _

theorem rested_step (h : Rested p) (s : PracticeStep) : Rested (p.step s).1 := by
  rw [step_eq_live]
  rcases s.happenings_end with hnothing | ⟨front, hlooks⟩
  · rw [hnothing]
    exact h
  · rw [hlooks, after_append]
    apply rested_looks
    exact beat_inRange_after h.inRange front

theorem rested_start (bpm : Int) (subdivision : Subdivision) (pager : Option Pager)
    (failing : Bool) :
    Rested (start (.start (.start (.atTempo (.of bpm subdivision)) pager) failing)) :=
  ⟨⟨Tempo.inRange_of bpm subdivision, Taps.regular_empty 0⟩, rfl, rfl⟩

/-! ## Runs with the same view -/

/-- A step that does not change the view by itself does not change it at all, if looks do not. -/
theorem Autonomous.quiet (hview : Autonomous view heard)
    (hrow : s.happenings = [.act s, .lookAtTicks, .lookAtTurn])
    (hact : view (p.undergo (.act s)).1 = view p)
    (hlooks : view (p.after [.lookAtTicks, .lookAtTurn]) = view p) :
    view (p.step s).1 = view p := by
  have hlive := (hview.live hact [.lookAtTicks, .lookAtTurn]).1
  rw [step_eq_live, hrow]
  exact hlive.trans hlooks

/-- **Run**: a view that goes its own way is the same in both runs, if a step that is left out does
    not change the view of a rested session. -/
theorem Autonomous.afterSteps {May : PracticeStep → Prop} (hview : Autonomous view heard)
    (hquiet : ∀ {p : Practice} {s : PracticeStep}, Rested p → May s →
      view (p.step s).1 = view p)
    {steps fewer : List PracticeStep} (h : Thinned May steps fewer)
    (hrested : Rested p) (hsame : view p = view q) :
    view (p.afterSteps steps) = view (q.afterSteps fewer) := by
  induction h generalizing p q with
  | nil => exact hsame
  | keep s _ ih =>
    apply ih
    · exact rested_step hrested s
    · exact hview.step hsame s
  | leaveOut hmay _ ih =>
    -- only the first run takes the step
    apply ih
    · exact rested_step hrested _
    · exact (hquiet hrested hmay).trans hsame

end Practice

/-! ## The view of the beat -/

theorem Beat.act_of_isOfPages {s : PracticeStep} (h : s.IsOfPages) (b : Beat) (now : Instant) :
    b.act now s = b := by
  cases h <;> rfl

namespace Practice

variable {p q : Practice} {s : PracticeStep}

def beatView (p : Practice) : Instant × Beat := (p.clock, p.beat)

theorem autonomous_beatView : Autonomous beatView (·.events.ticks) := by
  constructor
  · intro p q what hsame
    obtain ⟨hclock, hbeat⟩ := Prod.mk.inj hsame
    unfold beatView
    rw [clock_undergo, clock_undergo, (p.beat_undergo what).1, (q.beat_undergo what).1]
    rw [hclock, hbeat]
  · intro p q what hsame
    obtain ⟨hclock, hbeat⟩ := Prod.mk.inj hsame
    rw [(p.beat_undergo what).2, (q.beat_undergo what).2, hclock, hbeat]

theorem beatSight_eq (h : beatView p = beatView q) (s : PracticeStep) :
    p.beatSight s = q.beatSight s := by
  obtain ⟨hview, hticks⟩ := autonomous_beatView.live h s.happenings
  have hbeat : (p.after s.happenings).beat = (q.after s.happenings).beat := congrArg Prod.snd hview
  obtain ⟨hmetronome, htaps⟩ := Beat.mk.inj hbeat
  unfold beatSight
  rw [step_eq_live, step_eq_live]
  simp only [Sight.ticks_eventsOf, hmetronome, htaps, hticks]

theorem beatView_step (h : Rested p) (hs : s.IsOfPages) : beatView (p.step s).1 = beatView p := by
  obtain ⟨hclock, hbeat, -⟩ := p.after_looks
  apply autonomous_beatView.quiet hs.happenings_eq
  · show ((p.act s).1.clock, (p.act s).1.beat) = (p.clock, p.beat)
    rw [p.clock_act s, (p.sides_act s).1, Beat.act_of_isOfPages hs]
  · unfold beatView
    rw [hclock, hbeat, h.beat]

end Practice

/-! ## The view of the pages -/

namespace Beat

variable {b c : Beat} {now : Instant}

/-- What the pages depend on besides themselves: how long a bar takes, and what that will be. -/
def pulse (b : Beat) : Nat × Taps := (b.metronome.tempo.bpm, b.taps)

theorem pulse_start (b : Beat) : pulse { b with metronome := b.metronome.start.1 } = b.pulse := by
  unfold pulse
  rw [b.metronome.start_frame.1]

theorem pulse_tap (h : b.pulse = c.pulse) : (b.tap now).pulse = (c.tap now).pulse := by
  obtain ⟨hbpm, htaps⟩ := Prod.mk.inj h
  unfold Beat.tap
  rw [htaps]
  split
  · rfl
  · exact congrArg (·, c.taps.tap now) hbpm

/-- **Intents** do to the pulse what the pulse makes them do. -/
theorem pulse_carryOut (h : b.pulse = c.pulse) (intent : Intent) :
    (b.carryOut now intent).pulse = (c.carryOut now intent).pulse := by
  obtain ⟨hbpm, htaps⟩ := Prod.mk.inj h
  match intent with
  | .startMetronome =>
    show pulse { b with metronome := b.metronome.start.1 } =
      pulse { c with metronome := c.metronome.start.1 }
    rw [pulse_start, pulse_start]
    exact h
  | .tapTempo => exact pulse_tap h
  | .setTempo (some bpm) => rfl
  | .adjustTempo delta .up =>
    exact congrArg (fun n : Nat => (nearestBpm (n + delta.getD Assistant.defaultStep), Taps.empty))
      hbpm
  | .adjustTempo delta .down =>
    exact congrArg (fun n : Nat => (nearestBpm (n - delta.getD Assistant.defaultStep), Taps.empty))
      hbpm
  -- the others write neither the beats per minute nor the taps
  | .stopMetronome | .setSubdivision (some _) => exact h
  | .setTempo none | .setSubdivision none | .queryTempo => exact h
  | .nextPage | .prevPage | .gotoPage _ | .schedulePageTurn _ => exact h
  | .help | .quit | .unknown => exact h

theorem pulse_undergo (h : b.pulse = c.pulse) (what : Happening) :
    (b.undergo now what).1.pulse = (c.undergo now what).1.pulse := by
  cases what with
  | act step =>
    cases step with
    | intent intent => exact pulse_carryOut h intent
    | advance distance times => exact h
    | showPage => exact h
    | shutdown => exact h
    | forgetScheduled => exact h
    | load pager => exact h
    | nothing => exact h
  | lookAtTicks =>
    -- a look gives ticks but moves neither the tempo nor the taps
    have hlook : ∀ d : Beat, (d.look now).1.pulse = d.pulse := by
      intro d
      show ((d.metronome.look now).1.tempo.bpm, d.taps) = d.pulse
      rw [(d.metronome.look_frame now).1]
      rfl
    exact ((hlook b).trans h).trans (hlook c).symm
  | pass time => exact h
  | lookAtTurn => exact h
  | read => exact h

theorem pulse_act_of_isOfBeat {s : PracticeStep} (h : s.IsOfBeat) (b : Beat) (now : Instant) :
    (b.act now s).pulse = b.pulse := by
  cases h with
  | startMetronome => exact b.pulse_start
  | setSubdivision s => cases s <;> rfl
  | stopMetronome => rfl
  | queryTempo => rfl
  | help => rfl
  | unknown => rfl

end Beat

theorem Pages.act_of_isOfBeat {s : PracticeStep} (h : s.IsOfBeat) (v : Pages) (bpm : Nat)
    (now : Instant) : v.act bpm now s = v := by
  cases h <;> rfl

namespace Practice

variable {p q : Practice} {s : PracticeStep}

def pagesView (p : Practice) : Instant × Pages × Nat × Taps := (p.clock, p.pages, p.beat.pulse)

theorem autonomous_pagesView : Autonomous pagesView (·.events.announced) := by
  constructor
  · intro p q what hsame
    -- of the beat, the pages see no more than its beats per minute
    obtain ⟨hclock, hrest⟩ := Prod.mk.inj hsame
    obtain ⟨hpages, hpulse⟩ := Prod.mk.inj hrest
    obtain ⟨hbpm, -⟩ := Prod.mk.inj hpulse
    unfold pagesView
    rw [clock_undergo, clock_undergo, (p.pages_undergo what).1, (q.pages_undergo what).1]
    rw [(p.beat_undergo what).1, (q.beat_undergo what).1]
    rw [hclock, hpages, hbpm, Beat.pulse_undergo hpulse]
  · intro p q what hsame
    obtain ⟨hclock, hrest⟩ := Prod.mk.inj hsame
    obtain ⟨hpages, hpulse⟩ := Prod.mk.inj hrest
    obtain ⟨hbpm, -⟩ := Prod.mk.inj hpulse
    rw [(p.pages_undergo what).2, (q.pages_undergo what).2, hclock, hpages, hbpm]

theorem pagesSight_eq (h : pagesView p = pagesView q) (s : PracticeStep) :
    p.pagesSight s = q.pagesSight s := by
  obtain ⟨hview, hannounced⟩ := autonomous_pagesView.live h s.happenings
  have hbefore : p.pages = q.pages := congrArg (·.2.1) h
  have hafter : (p.after s.happenings).pages = (q.after s.happenings).pages :=
    congrArg (·.2.1) hview
  obtain ⟨-, -, -, hviewer⟩ := Pages.mk.inj hbefore
  obtain ⟨hpager, hscheduled, hslot, hviewer'⟩ := Pages.mk.inj hafter
  unfold pagesSight
  rw [step_eq_live, step_eq_live]
  simp only [Sight.announced_eventsOf, hviewer, hpager, hscheduled, hslot, hviewer', hannounced]

theorem pagesView_step (h : Rested p) (hs : s.IsOfBeat) : pagesView (p.step s).1 = pagesView p := by
  obtain ⟨hclock, hbeat, hpages⟩ := p.after_looks
  apply autonomous_pagesView.quiet hs.happenings_eq
  · show ((p.act s).1.clock, (p.act s).1.pages, (p.act s).1.beat.pulse) = pagesView p
    rw [p.clock_act s, (p.sides_act s).1, (p.sides_act s).2, Beat.pulse_act_of_isOfBeat hs]
    rw [Pages.act_of_isOfBeat hs]
    rfl
  · unfold pagesView
    rw [hclock, hbeat, hpages, h.beat, h.pages]

/-! ## Both together -/

/-- **Independent lifecycles**: take a new session at any tempo, with a score or without, and any
    steps. Leave out some that start, stop or subdivide the beat, or only ask: whatever step comes
    next does the same to the page, the pending turn and the viewer, and announces the same. Leave
    out some that turn, show, load or forget pages instead: whatever step comes next does the same
    to the tempo, the transport and the taps, and the same ticks come of it. -/
theorem lifecycles_independent {bpm : Int} {subdivision : Subdivision} {pager : Option Pager}
    {failing : Bool} {p : Practice}
    (hnew : start (.start (.start (.atTempo (.of bpm subdivision)) pager) failing) = p)
    (steps : List PracticeStep) (next : PracticeStep) :
    (∀ fewer, Thinned PracticeStep.IsOfBeat steps fewer →
      (p.afterSteps steps).pagesSight next = (p.afterSteps fewer).pagesSight next) ∧
    (∀ fewer, Thinned PracticeStep.IsOfPages steps fewer →
      (p.afterSteps steps).beatSight next = (p.afterSteps fewer).beatSight next) := by
  have hrested : Rested p := by
    rw [← hnew]
    exact rested_start bpm subdivision pager failing
  constructor
  · intro fewer hfewer
    apply pagesSight_eq
    exact autonomous_pagesView.afterSteps pagesView_step hfewer hrested rfl
  · intro fewer hfewer
    apply beatSight_eq
    exact autonomous_beatView.afterSteps beatView_step hfewer hrested rfl

/-- A turn that waits while the metronome runs: the turn comes without the metronome, and the ticks
    come without the turn. -/
theorem lifecycles_independent_turn_waits :
    ∃ p : Practice, start (.start (.start (.atTempo (.of 120 .quarter))
        (some (.ofPath "etude.pdf"))) false) = p ∧
      (p.afterSteps [.intent .startMetronome, .intent (.schedulePageTurn (some 1)),
          .intent (.setSubdivision (some .triplet))]).pagesSight (.advance (.ofSeconds 2) 1) =
        (p.afterSteps [.intent (.schedulePageTurn (some 1))]).pagesSight
          (.advance (.ofSeconds 2) 1) ∧
      (p.afterSteps [.intent .startMetronome, .intent (.schedulePageTurn (some 1)),
          .intent (.setSubdivision (some .triplet))]).beatSight (.advance (.ofSeconds 2) 1) =
        (p.afterSteps [.intent .startMetronome,
          .intent (.setSubdivision (some .triplet))]).beatSight (.advance (.ofSeconds 2) 1) := by
  refine ⟨_, rfl, ?_, ?_⟩
  · apply (lifecycles_independent rfl _ _).1
    exact .leaveOut .startMetronome (.keep _ (.leaveOut (.setSubdivision _) .nil))
  · apply (lifecycles_independent rfl _ _).2
    exact .keep _ (.leaveOut (.schedulePageTurn _) (.keep _ .nil))

/-- The turn is carried out and announced. -/
example :
    ((start (.start (.start (.atTempo (.of 120 .quarter))
        (some (.ofPath "etude.pdf"))) false)).afterSteps [.intent .startMetronome,
          .intent (.schedulePageTurn (some 1))]).pagesSight (.advance (.ofSeconds 2) 1) =
      ⟨some ⟨"etude.pdf", 2, none⟩, none, none, [⟨"etude.pdf", 2⟩], ["Page 2."]⟩ := by
  decide +kernel

end Practice

end Rehearsal
