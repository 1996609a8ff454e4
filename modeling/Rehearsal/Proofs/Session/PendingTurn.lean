import Mathlib.Data.List.Basic
import Rehearsal.Conversation.Basic
import Rehearsal.Proofs.Session.Arming

/-! # The scheduled turn is the pending turn

  A page turn that waits for its time is kept twice: the session has the scheduled turn, the
  slot has the pending one. `Kept` is the invariant that ties them together; it lets the
  scheduled turn be missing only if it was forgotten on purpose. A look of the slot is the only
  step that takes the pending turn away by itself, and it takes the scheduled one along.

  An `Arming` records at which time and tempo a turn was armed, so that a turn can be compared
  with the moment it comes from, whatever happened later.

  Main statement: `scheduled_eq_pending`.
-/

namespace Rehearsal

/-! ## Where a turn comes from -/

/-- A turn that was armed, and what held when it was. -/
structure Arming where
  /-- The turn. -/
  turn : PageTurn
  /-- The time. -/
  clock : Instant
  /-- The tempo. -/
  bpm : Nat
  deriving DecidableEq, Repr

/-- The turn is the last one armed: it waits for some bars at the tempo that held when it was
    armed, counted from then on, and no turn has a larger number. -/
structure LastArmed (log : List Arming) (turn : PageTurn) : Prop where
  /-- It waits for at least one bar. -/
  bars_pos : 0 < turn.bars
  /-- Its delay and its due time come from the tempo and the time of its arming. -/
  origin : ∃ arming ∈ log, arming.turn = turn ∧ turn.due = arming.clock + turn.delay ∧
    turn.delay = timeOfBars turn.bars arming.bpm
  /-- Its number is the largest. -/
  id_max : ∀ arming ∈ log, arming.turn.id ≤ turn.id

/-! ## The invariant -/

/-- The session and the slot agree about the turn that waits. -/
structure Kept (log : List Arming) (forgot : Prop) (a : Assistant) : Prop where
  /-- The scheduled turn is the pending one, or was forgotten. -/
  same : a.session.scheduled = a.slot.pending ∨ (forgot ∧ a.session.scheduled = none)
  /-- The pending turn is the last one armed. -/
  last : ∀ turn, a.slot.pending = some turn → LastArmed log turn
  /-- The next number is new. -/
  id_lt : ∀ arming ∈ log, arming.turn.id < a.slot.nextId

namespace Kept

variable {log : List Arming} {forgot : Prop} {a b : Assistant}

theorem of_keepsTurn (k : Kept log forgot a) (h : a.KeepsTurn b) : Kept log forgot b := by
  refine ⟨?_, ?_, ?_⟩
  · rw [h.scheduled, h.pending]
    exact k.same
  · rw [h.pending]
    exact k.last
  · intro arming harming
    exact Nat.lt_of_lt_of_le (k.id_lt arming harming) h.nextId_le

theorem of_none (k : Kept log forgot a) (hscheduled : b.session.scheduled = none)
    (hpending : b.slot.pending = none) (hnext : b.slot.nextId = a.slot.nextId) :
    Kept log forgot b := by
  refine ⟨.inl (hscheduled.trans hpending.symm), ?_, ?_⟩
  · intro turn hturn
    rw [hpending] at hturn
    cases hturn
  · rw [hnext]
    exact k.id_lt

theorem forgetScheduled (k : Kept log forgot a) : Kept log True a.forgetScheduled :=
  ⟨.inr ⟨trivial, rfl⟩, k.last, k.id_lt⟩

theorem weaken {forgot' : Prop} (k : Kept log forgot a) (h : forgot → forgot') :
    Kept log forgot' a :=
  ⟨k.same.imp_right (And.imp_left h), k.last, k.id_lt⟩

/-- An intent that arms a turn sets both. Its number is larger than all before it because the
    slot has not used it yet. -/
theorem arm (k : Kept log forgot a) {now : Instant} {intent : Intent} {turn : PageTurn}
    (h : a.arms? now intent = some turn) :
    Kept (log ++ [⟨turn, now, a.session.metronome.tempo.bpm⟩]) forgot
      (a.carryOut now intent).1 := by
  obtain ⟨bars, -, -, -, hturn⟩ := Assistant.arms?_eq_some h
  have hid : turn.id = a.slot.nextId := by rw [hturn]
  -- both turns are set at once, from the same time and tempo
  rw [Assistant.carryOut_of_arms h]
  refine ⟨.inl rfl, ?_, ?_⟩
  · intro other hother
    obtain rfl := Option.some.inj hother
    refine ⟨by rw [hturn]; exact Nat.succ_pos bars, ?_, ?_⟩
    · exact ⟨_, List.mem_append_right _ List.mem_cons_self, rfl, by rw [hturn], by rw [hturn]⟩
    · intro arming harming
      rcases List.mem_append.1 harming with harming | harming
      · rw [hid]
        exact Nat.le_of_lt (k.id_lt arming harming)
      · obtain rfl := List.mem_singleton.1 harming
        exact Nat.le_refl _
  · intro arming harming
    show arming.turn.id < a.slot.nextId + 1
    rcases List.mem_append.1 harming with harming | harming
    · exact Nat.lt_succ_of_lt (k.id_lt arming harming)
    · rw [List.mem_singleton.1 harming, ← hid]
      exact Nat.lt_succ_self _

theorem shutdown (k : Kept log forgot a) : Kept log forgot a.shutdown :=
  k.of_none rfl rfl a.slot.nextId_cancel

end Kept

/-! ## Looks -/

/-- After all work in the background is done, the pending turn is still to come. -/
structure Settled (log : List Arming) (forgot : Prop) (p : Practice) : Prop where
  kept : Kept log forgot p.assistant
  waiting : ∀ turn, p.assistant.slot.pending = some turn → p.clock < turn.due

namespace Practice

variable {log : List Arming} {forgot : Prop} {p : Practice}

theorem keepsTurn_lookAtTicks (p : Practice) : p.assistant.KeepsTurn p.lookAtTicks.1.assistant :=
  ⟨rfl, rfl, rfl, Nat.le_refl _, rfl⟩

/-- Firing the turn that the slot lets go of leaves no scheduled turn: either it is the
    scheduled one, or the scheduled one was forgotten. -/
theorem scheduled_fire_pending {a : Assistant} (slot : TurnSlot) {turn : PageTurn}
    (k : Kept log forgot a) (h : a.slot.pending = some turn) :
    ({ a with slot }.fire turn).1.session.scheduled = none ∧
      ({ a with slot }.fire turn).1.slot = slot := by
  unfold Assistant.fire
  -- the pending turn is the scheduled one unless that one was forgotten
  rcases k.same with hsame | ⟨-, hnone⟩
  · have hscheduled : a.session.isScheduled turn.id = true := by
      simp [Session.isScheduled, hsame, h]
    rw [if_pos hscheduled]
    dsimp only
    split
    · exact ⟨rfl, rfl⟩
    · exact ⟨rfl, rfl⟩
  · have hscheduled : ¬ a.session.isScheduled turn.id = true := by
      simp [Session.isScheduled, hnone]
    rw [if_neg hscheduled]
    exact ⟨hnone, rfl⟩

/-- A look of the slot either fires the pending turn, and then both are gone, or finds it not
    due and leaves both. -/
theorem settled_lookAtTurn (k : Kept log forgot p.assistant) :
    Settled log forgot p.lookAtTurn.1 := by
  unfold lookAtTurn TurnSlot.look
  cases hpending : p.assistant.slot.pending with
  | none =>
    refine ⟨k, ?_⟩
    intro turn hturn
    rw [show p.assistant.slot.pending = some turn from hturn] at hpending
    cases hpending
  | some turn =>
    -- a turn that is due is fired at once, so what remains pending is still to come
    by_cases hdue : turn.due ≤ p.clock
    · simp only [if_pos hdue]
      obtain ⟨hnone, hslot⟩ := scheduled_fire_pending
        { p.assistant.slot with pending := none } k hpending
      refine ⟨k.of_none hnone (by rw [hslot]) (by rw [hslot]), ?_⟩
      intro other hother
      rw [hslot] at hother
      cases hother
    · simp only [if_neg hdue]
      refine ⟨k, ?_⟩
      intro other hother
      rw [show p.assistant.slot.pending = some other from hother] at hpending
      rw [Option.some.inj hpending]
      exact Nat.lt_of_not_le hdue

/-- All work in the background is done: whatever was pending and due is gone from both. -/
theorem settled_look (k : Kept log forgot p.assistant) : Settled log forgot p.look.1 :=
  settled_lookAtTurn (k.of_keepsTurn p.keepsTurn_lookAtTicks)

theorem settled_jumps {distance : Duration} (n : Nat) (s : Settled log forgot p) :
    Settled log forgot (p.jumps distance n).1 := by
  induction n generalizing p with
  | zero => exact s
  | succ n ih => exact ih (settled_look (p := { p with clock := p.clock + distance }) s.kept)

/-! ## Steps -/

/-- The turn that a step arms, if it arms one, with the present time and tempo. -/
def arming? (p : Practice) : PracticeStep → Option Arming
  | .intent intent =>
    (p.assistant.arms? p.clock intent).map fun turn =>
      ⟨turn, p.clock, p.assistant.session.metronome.tempo.bpm⟩
  | _ => none

theorem kept_carryOut {a : Assistant} (k : Kept log forgot a) (now : Instant) (intent : Intent) :
    Kept (log ++ ((a.arms? now intent).map fun turn =>
        (⟨turn, now, a.session.metronome.tempo.bpm⟩ : Arming)).toList)
      forgot (a.carryOut now intent).1 := by
  cases h : a.arms? now intent with
  | some turn => exact k.arm h
  | none =>
    simp only [Option.map_none, Option.toList_none, List.append_nil]
    exact k.of_keepsTurn (Assistant.keepsTurn_carryOut h)

theorem settled_append_none (s : Settled log forgot p) :
    Settled (log ++ (none : Option Arming).toList) forgot p := by
  rw [Option.toList_none, List.append_nil]
  exact s

/-- One step, whatever it is. -/
theorem settled_step (s : Settled log forgot p) (step : PracticeStep) :
    Settled (log ++ (p.arming? step).toList) (forgot ∨ step = .forgetScheduled)
      (p.step step).1 := by
  -- whether the scheduled turn was forgotten matters for later steps as well
  have weakened : Kept log (forgot ∨ step = .forgetScheduled) p.assistant := s.kept.weaken .inl
  cases step with
  | intent intent =>
    exact settled_look (p := { p with assistant := (p.assistant.carryOut p.clock intent).1 })
      (kept_carryOut weakened p.clock intent)
  | advance distance times => exact settled_append_none (settled_jumps times ⟨weakened, s.waiting⟩)
  | showPage =>
    refine settled_append_none (settled_look
      (p := { p with assistant := p.assistant.showCurrent.1 }) (weakened.of_keepsTurn ?_))
    unfold Assistant.showCurrent
    split
    · exact .refl _
    · exact ⟨rfl, rfl, rfl, Nat.le_refl _, rfl⟩
  | shutdown =>
    exact settled_append_none (settled_look
      (p := { p with assistant := p.assistant.shutdown }) weakened.shutdown)
  | forgetScheduled =>
    exact settled_append_none (settled_look
      (p := { p with assistant := p.assistant.forgetScheduled })
      (s.kept.forgetScheduled.weaken fun _ => .inr rfl))
  | load pager =>
    exact settled_append_none (settled_look
      (p := { p with assistant := p.assistant.load pager })
      ⟨weakened.same, weakened.last, weakened.id_lt⟩)
  | nothing => exact settled_append_none (settled_look weakened)

end Practice

/-! ## Courses of a conversation -/

namespace Conversation

/-- One move of a conversation on a clock that stands still but for jumps. -/
inductive Move where
  | say (utterance : List Char)
  | take (step : PracticeStep)
  deriving DecidableEq, Repr

def move (c : Conversation) : Move → Conversation
  | .say utterance => (c.hear utterance).1
  | .take step => (c.act step).1

/-- The step of the session that a move comes to. An utterance that does not count comes to
    none. -/
def stepOf (c : Conversation) : Move → Option PracticeStep
  | .say utterance => (c.hear utterance).2.intent.map .intent
  | .take step => some step

/-- The turn that a move arms, if it arms one, with the present time and tempo. -/
def arming? (c : Conversation) (m : Move) : Option Arming :=
  (c.stepOf m).bind c.practice.arming?

/-- Some moves, with the turns that they armed and the conversation that they lead to. -/
inductive Course (first : Conversation) : List Move → List Arming → Conversation → Prop where
  /-- No move yet. -/
  | start : Course first [] [] first
  /-- One more move. -/
  | move {moves : List Move} {log : List Arming} {c : Conversation} (m : Move) :
      Course first moves log c →
        Course first (moves ++ [m]) (log ++ (c.arming? m).toList) (c.move m)

/-- A move is the step that it comes to, after which the waiting ticks are read. -/
theorem practice_move (c : Conversation) (m : Move) :
    (c.move m).practice =
      match c.stepOf m with
      | some step => (c.practice.step step).1.drain.1
      | none => c.practice := by
  cases m with
  | take step => rfl
  | say utterance =>
    simp only [move, stepOf, hear]
    rcases c.attention.hear utterance with ⟨attention, text | _ | _⟩
    · rfl
    · rfl
    · rfl

theorem stepOf_eq_forgetScheduled {c : Conversation} {m : Move}
    (h : c.stepOf m = some .forgetScheduled) : m = .take .forgetScheduled := by
  cases m with
  | take step => rw [Option.some.inj h]
  | say utterance =>
    obtain ⟨intent, -, hintent⟩ := Option.map_eq_some_iff.1 h
    cases hintent

/-- **Run invariant**: on every course the two turns agree after each move. -/
theorem Course.settled {first c : Conversation} {moves : List Move} {log : List Arming}
    (course : Course first moves log c) (hfirst : Settled [] False first.practice) :
    Settled log (.take .forgetScheduled ∈ moves) c.practice := by
  -- by induction on the moves; once the turn was forgotten, it stays so in the list of moves
  induction course with
  | start => exact ⟨hfirst.kept.weaken False.elim, hfirst.waiting⟩
  | @move moves log c m _ ih =>
    have weaken : ∀ {forgot : Prop} {log : List Arming} {p : Practice}, Settled log forgot p →
        (forgot → .take .forgetScheduled ∈ moves ++ [m]) →
          Settled log (.take .forgetScheduled ∈ moves ++ [m]) p.drain.1 := by
      intro forgot log p s h
      exact ⟨s.kept.weaken h, s.waiting⟩
    rw [practice_move]
    unfold arming?
    cases hstep : c.stepOf m with
    | none =>
      -- an utterance that does not count changes nothing
      exact Practice.settled_append_none
        ⟨ih.kept.weaken (List.mem_append_left _), ih.waiting⟩
    | some step =>
      refine weaken (Practice.settled_step ih step) ?_
      rintro (h | rfl)
      · exact List.mem_append_left _ h
      · rw [stepOf_eq_forgetScheduled hstep]
        exact List.mem_append_right _ List.mem_cons_self

theorem settled_start (session : Session) (failing : Bool) (h : session.scheduled = none) :
    Settled [] False (.start (.start session failing)) := by
  refine ⟨⟨.inl h, ?_, ?_⟩, ?_⟩
  · intro turn hturn
    cases hturn
  · intro arming harming
    cases harming
  · intro turn hturn
    cases hturn

/-! ## The turn that waits -/

/-- **One turn, kept twice**: take a new session and any course of a conversation with it. If the
    scheduled turn was never forgotten, then after every move it is the pending turn, is still
    to come, and is the last turn armed, with the delay and the due time that follow from the
    tempo and the time of its arming. If it was forgotten, it is missing or is still the pending
    turn. -/
theorem scheduled_eq_pending {attention : Attention} {classifier : Classifier}
    {metronome : Metronome} {pager : Option Pager} {failing : Bool}
    {moves : List Move} {log : List Arming} {c : Conversation}
    (course : Course ⟨attention, classifier, .start (.start (.start metronome pager) failing)⟩
      moves log c) :
    (.take .forgetScheduled ∉ moves →
      c.practice.assistant.session.scheduled = c.practice.assistant.slot.pending ∧
        ∀ turn, c.practice.assistant.session.scheduled = some turn →
          c.practice.clock < turn.due ∧ LastArmed log turn) ∧
      (c.practice.assistant.session.scheduled = none ∨
        c.practice.assistant.session.scheduled = c.practice.assistant.slot.pending) := by
  have s := course.settled (settled_start _ failing rfl)
  refine ⟨?_, ?_⟩
  · intro hnever
    -- the two can differ only after a forgetting
    have hsame := s.kept.same.resolve_right fun h => hnever h.1
    refine ⟨hsame, ?_⟩
    intro turn hturn
    rw [hsame] at hturn
    exact ⟨s.waiting turn hturn, s.kept.last turn hturn⟩
  · rcases s.kept.same with hsame | ⟨-, hnone⟩
    · exact .inr hsame
    · exact .inl hnone

/-- A turn that is scheduled stays the pending one when tempo and score change after it. It waits as
    long as four bars took at the tempo that held when it was scheduled. -/
theorem scheduled_eq_pending_after_changes :
    ∃ (log : List Arming) (c : Conversation),
      Course ⟨.ofWakeWord none, .ofRules,
          .start (.start (.start (.atTempo .initial) (some (.ofPath "etude.pdf"))) false)⟩
        [.take (.intent (.schedulePageTurn (some 4))), .take (.intent (.setTempo (some 60))),
          .take (.load none), .take (.advance (Duration.ofMillis 1) 3)] log c ∧
        c.practice.assistant.session.scheduled = c.practice.assistant.slot.pending ∧
        ∃ turn, c.practice.assistant.session.scheduled = some turn ∧
          c.practice.assistant.session.metronome.tempo.bpm = 60 ∧
          turn.delay = Duration.ofMillis 9600 ∧ c.practice.clock < turn.due ∧
            LastArmed log turn := by
  have hstart : Course ⟨.ofWakeWord none, .ofRules,
      .start (.start (.start (.atTempo .initial) (some (.ofPath "etude.pdf"))) false)⟩ [] [] _ :=
    .start
  have course := (((hstart
    |>.move (.take (.intent (.schedulePageTurn (some 4)))))
    |>.move (.take (.intent (.setTempo (some 60)))))
    |>.move (.take (.load none)))
    |>.move (.take (.advance (Duration.ofMillis 1) 3))
  obtain ⟨hsame, hwaits⟩ := (scheduled_eq_pending course).1 (by decide)
  -- the turn was armed at 100 beats per minute: sixteen beats of 600 ms
  have hturn := hwaits ⟨1, Duration.ofMillis 9600, Duration.ofMillis 9600, 4⟩ (by decide +kernel)
  exact ⟨_, _, course, hsame, _, by decide +kernel, by decide +kernel, rfl, hturn⟩

end Conversation

end Rehearsal
