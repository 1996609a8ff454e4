import Rehearsal.Proofs.Session.Arming
import Rehearsal.Proofs.Session.Inert
import Rehearsal.Proofs.Session.TwoSides

/-! # Intents without effect

  Some intents are refused, ask for what is already so, or only ask. They leave everything as it
  was, and whatever happens later happens as if they had not been carried out.

  One thing is used up nevertheless: a page turn that is asked for after the shutdown takes the
  next number of the slot, though the slot refuses it. `withNextId` forgets about the number. A slot
  that has ended gives its numbers to nobody, so two sessions that differ in the next number of
  such a slot go on alike (`seen_withNextId`).

  Main statement: `seen_after_idle`.
-/

namespace Rehearsal

/-! ## The intents -/

/-- The intents that are refused by a session, ask for what is already so, or only ask. -/
inductive Idle (isShutDown : Prop) (s : Session) : Intent → Prop where
  | noTempo : Idle isShutDown s (.setTempo none)
  | noSubdivision : Idle isShutDown s (.setSubdivision none)
  | noPage : Idle isShutDown s (.gotoPage none)
  | noBars : Idle isShutDown s (.schedulePageTurn none)
  /-- A page turn at once is none. -/
  | zeroBars : Idle isShutDown s (.schedulePageTurn (some 0))
  | nextWithoutScore : s.pager = none → Idle isShutDown s .nextPage
  | prevWithoutScore : s.pager = none → Idle isShutDown s .prevPage
  | gotoWithoutScore (page : Option Nat) : s.pager = none → Idle isShutDown s (.gotoPage page)
  | scheduleWithoutScore (bars : Option Nat) :
      s.pager = none → Idle isShutDown s (.schedulePageTurn bars)
  /-- There is nobody left to turn the page. -/
  | scheduleShutDown (bars : Option Nat) :
      isShutDown → Idle isShutDown s (.schedulePageTurn bars)
  | startRunning : s.metronome.running = true → Idle isShutDown s .startMetronome
  | stopStopped : s.metronome.running = false → Idle isShutDown s .stopMetronome
  | queryTempo : Idle isShutDown s .queryTempo
  | help : Idle isShutDown s .help
  | quit : Idle isShutDown s .quit
  | unknown : Idle isShutDown s .unknown

/-! ## Forgetting the next number -/

@[simp] theorem TurnSlot.ended_look (s : TurnSlot) (now : Instant) :
    (s.look now).1.ended = s.ended := by
  unfold TurnSlot.look
  split
  · split <;> rfl
  · rfl

/-- The same slot with another number for the next turn. -/
def TurnSlot.withNextId (s : TurnSlot) (n : Nat) : TurnSlot := { s with nextId := n }

/-- The same assistant with another number for the next turn. -/
def Assistant.withNextId (a : Assistant) (n : Nat) : Assistant :=
  { a with slot := a.slot.withNextId n }

/-- The same session with another number for the next turn. -/
def Practice.withNextId (p : Practice) (n : Nat) : Practice :=
  { p with assistant := p.assistant.withNextId n }

namespace Assistant

variable {a : Assistant} {now : Instant} {n : Nat}

/-- A slot that has ended refuses the turn whatever its number. -/
theorem scheduleTurn_of_ended (h : a.slot.ended = true) (now : Instant) (bars : Nat) :
    ∃ m, (a.scheduleTurn now bars).1 = a.withNextId m ∧
      ∀ n, ∃ k, (a.withNextId n).scheduleTurn now bars =
        (a.withNextId k, (a.scheduleTurn now bars).2) := by
  have hended : ∀ n, (a.slot.withNextId n).ended = true := fun _ => h
  cases hpager : a.session.pager with
  | none =>
    refine ⟨a.slot.nextId, ?_, fun n => ⟨n, ?_⟩⟩
    all_goals simp [scheduleTurn, withNextId, hpager, TurnSlot.withNextId]
  -- the refusal uses up a number, here as there
  | some pager =>
    refine ⟨a.slot.nextId + 1, ?_, fun n => ⟨n + 1, ?_⟩⟩
    · simp only [scheduleTurn, hpager, TurnSlot.arm_of_ended h]
      rfl
    · simp only [scheduleTurn, withNextId, hpager, TurnSlot.arm_of_ended h,
        TurnSlot.arm_of_ended (hended n)]
      rfl

end Assistant

/-- Nobody but a turn that is armed looks at the next number. -/
theorem inert_withNextId (n : Nat) : Inert (·.withNextId n) id := by
  constructor
  · intro s now
    unfold TurnSlot.look TurnSlot.withNextId
    dsimp only
    split
    · split <;> rfl
    · rfl
  · intro s
    unfold TurnSlot.withNextId TurnSlot.cancel
    dsimp only
    split <;> rfl
  · intro v pager
    rfl

namespace Practice

variable {p : Practice} {n : Nat}

/-- Whatever happens to a session whose slot has ended, the next number makes no difference but to
    the next number. -/
theorem undergo_withNextId (h : p.assistant.slot.ended = true) (what : Happening) (n : Nat) :
    ∃ m, (p.withNextId n).undergo what =
      ((p.undergo what).1.withNextId m, (p.undergo what).2) := by
  by_cases hturn : ∃ bars, what = .act (.intent (.schedulePageTurn (some (bars + 1))))
  · -- a slot that has ended refuses the turn
    obtain ⟨bars, rfl⟩ := hturn
    obtain ⟨m, hleft, hright⟩ := Assistant.scheduleTurn_of_ended h p.clock (bars + 1)
    obtain ⟨k, hk⟩ := hright n
    refine ⟨k, ?_⟩
    simp only [undergo, act, Assistant.carryOut, withNextId, hk, hleft]
    rfl
  · exact ⟨n, (inert_withNextId n).undergo (fun bars hwhat => hturn ⟨bars, hwhat⟩) p⟩

/-! ## A slot that has ended stays so -/

theorem ended_lookAtTurn (p : Practice) :
    p.lookAtTurn.1.assistant.slot.ended = p.assistant.slot.ended := by
  have hpages : p.lookAtTurn.1.pages = (p.pages.look p.clock).1 :=
    congrArg Prod.fst p.sides_lookAtTurn.2.2
  show p.lookAtTurn.1.pages.slot.ended = _
  rw [hpages, Pages.slot_look, TurnSlot.ended_look]
  rfl

theorem ended_undergo (h : p.assistant.slot.ended = true) (what : Happening) :
    (p.undergo what).1.assistant.slot.ended = true := by
  cases what with
  | pass time => exact h
  | lookAtTicks => exact h
  | read => exact h
  | lookAtTurn => exact (ended_lookAtTurn p).trans h
  | act step =>
    cases step with
    | intent i =>
      -- a slot that has ended arms no turn, and every other intent leaves it alone
      exact (Assistant.keepsTurn_carryOut (Assistant.arms?_of_ended h)).ended.trans h
    | showPage =>
      show p.assistant.showCurrent.1.slot.ended = true
      unfold Assistant.showCurrent
      split
      · exact h
      · exact h
    | shutdown => rfl
    | forgetScheduled => exact h
    | load pager => exact h
    | advance distance times => exact h
    | nothing => exact h

theorem ended_after (h : p.assistant.slot.ended = true) (whats : List Happening) :
    (p.after whats).assistant.slot.ended = true := by
  induction whats generalizing p with
  | nil => exact h
  | cons what whats ih => exact ih (ended_undergo h what)

theorem ended_of_shutdown {whats : List Happening} (h : .act .shutdown ∈ whats) (p : Practice) :
    (p.after whats).assistant.slot.ended = true := by
  obtain ⟨front, back, rfl⟩ := List.append_of_mem h
  rw [after_append]
  exact ended_after (p := ((p.after front).undergo (.act .shutdown)).1) rfl back

/-! ## Nothing has happened -/

/-- The second session is the first one in everything but the next number of the slot. -/
structure AsBefore (p q : Practice) : Prop where
  /-- It is the same time. -/
  clock : q.clock = p.clock
  /-- Metronome, score, scheduled turn, taps and version are the same. -/
  session : q.assistant.session = p.assistant.session
  /-- The same turn waits for the same time, or none does. -/
  pending : q.assistant.slot.pending = p.assistant.slot.pending
  /-- The slot has ended exactly if it had. -/
  ended : q.assistant.slot.ended = p.assistant.slot.ended
  /-- The viewer was asked for the same pages. -/
  viewer : q.assistant.viewer = p.assistant.viewer
  /-- The same ticks wait to be read. -/
  queue : q.queue = p.queue

theorem asBefore_withNextId (p : Practice) (n : Nat) : AsBefore p (p.withNextId n) :=
  ⟨rfl, rfl, rfl, rfl, rfl, rfl⟩

/-- An idle intent may use up a number of a slot that has ended, and does nothing else. -/
theorem carryOut_idle {a : Assistant} {isShutDown : Prop} {intent : Intent}
    (hended : isShutDown → a.slot.ended = true) (h : Idle isShutDown a.session intent)
    (now : Instant) :
    (a.carryOut now intent).1 = a ∨
      (a.slot.ended = true ∧ ∃ n, (a.carryOut now intent).1 = a.withNextId n) := by
  -- without a score no move is made
  have hturn : ∀ move, a.session.pager = none → (a.turnTo move).1 = a := by
    intro move hpager
    unfold Assistant.turnTo
    rw [hpager]
  cases h with
  | noTempo => exact .inl rfl
  | noSubdivision => exact .inl rfl
  | noPage => exact .inl rfl
  | noBars => exact .inl rfl
  | zeroBars => exact .inl rfl
  | nextWithoutScore hpager => exact .inl (hturn _ hpager)
  | prevWithoutScore hpager => exact .inl (hturn _ hpager)
  | gotoWithoutScore page hpager =>
    cases page with
    | none => exact .inl rfl
    | some page => exact .inl (hturn _ hpager)
  | scheduleWithoutScore bars hpager =>
    match bars with
    | none => exact .inl rfl
    | some 0 => exact .inl rfl
    | some (bars + 1) =>
      refine .inl ?_
      show (a.scheduleTurn now (bars + 1)).1 = a
      unfold Assistant.scheduleTurn
      rw [hpager]
  | scheduleShutDown bars hshut =>
    match bars with
    | none => exact .inl rfl
    | some 0 => exact .inl rfl
    | some (bars + 1) =>
      obtain ⟨n, hn, -⟩ := Assistant.scheduleTurn_of_ended (hended hshut) now (bars + 1)
      exact .inr ⟨hended hshut, n, hn⟩
  | startRunning hrunning =>
    refine .inl ?_
    show a.startMetronome.1 = a
    unfold Assistant.startMetronome Metronome.start
    rw [if_pos hrunning]
    rfl
  | stopStopped hstopped =>
    refine .inl ?_
    show a.stopMetronome.1 = a
    unfold Assistant.stopMetronome Metronome.stop
    rw [hstopped]
    rfl
  | queryTempo => exact .inl rfl
  | help => exact .inl rfl
  | quit => exact .inl rfl
  | unknown => exact .inl rfl

/-! ## What happens later -/

/-- Sessions that differ in the next number of a slot that has ended go on alike. -/
theorem live_withNextId (h : p.assistant.slot.ended = true) (later : List Happening) (n : Nat) :
    ∃ m, (p.withNextId n).live later = ((p.after later).withNextId m, p.seen later) := by
  induction later generalizing p n with
  | nil => exact ⟨n, rfl⟩
  | cons what later ih =>
    obtain ⟨k, hk⟩ := undergo_withNextId h what n
    obtain ⟨m, hm⟩ := ih (ended_undergo h what) k
    refine ⟨m, ?_⟩
    simp only [live, hk, hm, after_cons, seen_cons]

/-- **Idle intents have no effect**: take a new session, with a score or without, and anything that
    happens to it. An intent that lacks its value, that wants no bars, or a score where none is
    loaded, a page turn after the shutdown, a start of the running metronome, a stop of the stopped
    one and an intent that only asks all leave the session, the pending turn, the viewer and the
    waiting ticks as they were. They give an answer, and neither announce nor show nor tick. All
    that is seen later is as if they had not been carried out. -/
theorem seen_after_idle {metronome : Metronome} {pager : Option Pager} {failing : Bool}
    {before : List Happening} {p : Practice}
    (reached : (start (.start (.start metronome pager) failing)).after before = p)
    {intent : Intent} (h : Idle (.act .shutdown ∈ before) p.assistant.session intent) :
    AsBefore p (p.after [.act (.intent intent)]) ∧
      (∃ answer, p.seen [.act (.intent intent)] =
        [.of { PracticeEvents.none with response := some answer }]) ∧
      ∀ later, (p.after [.act (.intent intent)]).seen later = p.seen later ∧
        AsBefore (p.after later) ((p.after [.act (.intent intent)]).after later) := by
  have hended : .act .shutdown ∈ before → p.assistant.slot.ended = true := by
    intro hshut
    rw [← reached]
    exact ended_of_shutdown hshut _
  have hafter : p.after [.act (.intent intent)] = p ∨ (p.assistant.slot.ended = true ∧
      ∃ n, p.after [.act (.intent intent)] = p.withNextId n) := by
    rcases carryOut_idle hended h p.clock with hsame | ⟨hended, n, hn⟩
    · exact .inl (congrArg (fun a => { p with assistant := a }) hsame)
    · exact .inr ⟨hended, n, congrArg (fun a => { p with assistant := a }) hn⟩
  refine and_left_comm.1 ⟨⟨_, rfl⟩, ?_⟩
  rcases hafter with hsame | ⟨hended, n, hn⟩
  · rw [hsame]
    exact ⟨asBefore_withNextId p _, fun later => ⟨rfl, asBefore_withNextId _ _⟩⟩
  · rw [hn]
    refine ⟨asBefore_withNextId p n, fun later => ?_⟩
    -- the two runs differ in the next number all along
    obtain ⟨m, hm⟩ := live_withNextId hended later n
    have hlater : (p.withNextId n).after later = (p.after later).withNextId m :=
      congrArg Prod.fst hm
    have hseen : (p.withNextId n).seen later = p.seen later := by
      unfold seen
      rw [hm]
      rfl
    rw [hlater]
    exact ⟨hseen, asBefore_withNextId _ m⟩

/-- A page turn that is asked for after the shutdown, in the middle of a bar. -/
theorem seen_after_idle_shutdown :
    ∃ p : Practice,
      (start (.start (.start (.atTempo .initial) (some (.ofPath "etude.pdf"))) false)).after
          [.act (.intent .startMetronome), .lookAtTicks,
            .act (.intent (.schedulePageTurn (some 4))), .act .shutdown] = p ∧
        Idle True p.assistant.session (.schedulePageTurn (some 2)) ∧
        ∀ later, (p.after [.act (.intent (.schedulePageTurn (some 2)))]).seen later =
          p.seen later := by
  refine ⟨_, rfl, .scheduleShutDown _ trivial, fun later => ?_⟩
  exact ((seen_after_idle rfl (.scheduleShutDown (some 2) (by decide))).2.2 later).1

end Practice

end Rehearsal
