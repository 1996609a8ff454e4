import Mathlib.Logic.Relation
import Rehearsal.Proofs.Session.Arming
import Rehearsal.Proofs.Session.Farewell
import Rehearsal.Proofs.Session.Happenings
import Rehearsal.Proofs.Session.Sentences
import Rehearsal.Proofs.Session.TwoSides

/-! # Answers tell the truth

  The numbers and names in an answer come from different places: from what was asked for, from what
  a call gave back, from the session. Whatever an answer says of tempo, subdivision, page, transport
  and the scheduled turn is nevertheless so in the session that the intent leaves, and what it says
  of a change has just happened.

  `Told` lists the answers of each topic together with what is so when they are given; it is the
  only place where the intents are gone through for their answers (`exists_told`).

  That the number of a new turn is a fresh one is a matter of all that came before: numbers of
  scheduled turns stay below the next number of the slot, and that never goes down
  (`Leads.numbered`, `Leads.nextId_le`).

  Main statement: `answers_are_true`.
-/

namespace Rehearsal

/-! ## What can be answered -/

/-- An answer with its topic, and what is so of the assistant that it leaves. -/
inductive Told (before after : Assistant) : Option Topic → Response → Prop where
  /-- The tempo that was set is stored. -/
  | tempoSet : Told before after (some .tempoSet) (.tempoSet after.session.metronome.tempo.bpm)
  /-- The tempo is the stored one. -/
  | tempoIs : Told before after (some .tempoIs) (.tempoIs after.session.metronome.tempo.bpm)
  /-- The page is open. -/
  | page (n : Nat) : after.session.page? = some n → Told before after (some .page) (.pageIs n)
  /-- The subdivision is stored. -/
  | subdivision : Told before after (some .subdivision)
      (.subdivisionSet after.session.metronome.tempo.subdivision)
  /-- The metronome was stopped and is running. -/
  | started : before.session.metronome.running = false →
      after.session.metronome.running = true → Told before after (some .started) .started
  /-- The metronome was running and is stopped. -/
  | stopped : before.session.metronome.running = true →
      after.session.metronome.running = false → Told before after (some .stopped) .stopped
  /-- The turn is scheduled and pending, and it took the next number of the slot. -/
  | turn (turn : PageTurn) : after.session.scheduled = some turn →
      after.slot.pending = some turn → turn.id = before.slot.nextId →
      Told before after (some .turn) (.turnScheduled turn.bars)
  /-- Nothing is told of the session. -/
  | other (r : Response) : Topic.of? r.text = none → Told before after none r

theorem Told.of?_text {before after : Assistant} {topic : Option Topic} {r : Response}
    (told : Told before after topic r) : Topic.of? r.text = topic := by
  cases told with
  | tempoSet => exact Topic.tempoSet.of?_lead_append_append _ _
  | tempoIs => exact Topic.tempoIs.of?_lead_append_append _ _
  | page n _ => exact Topic.page.of?_lead_append_append _ _
  | subdivision => exact Topic.subdivision.of?_lead_append_append _ _
  | started _ _ => exact Topic.started.of?_lead
  | stopped _ _ => exact Topic.stopped.of?_lead
  | turn t _ _ _ => exact Topic.turn.of?_lead_append_append _ _
  | other r h => exact h

theorem Told.topic_eq {before after : Assistant} {found : Option Topic} {r : Response}
    (told : Told before after found r) (topic : Topic) {middle rest : String}
    (h : r.text = topic.lead ++ middle ++ rest) : found = some topic := by
  rw [← told.of?_text, h]
  exact topic.of?_lead_append_append middle rest

namespace Assistant

variable {a : Assistant} {now : Instant} {intent : Intent}

theorem told_other {before after : Assistant} (r : Response) (h : Topic.of? r.text = none) :
    ∃ topic, Told before after topic r := ⟨none, .other r h⟩

theorem told_startMetronome (a : Assistant) :
    ∃ topic, Told a a.startMetronome.1 topic a.startMetronome.2 := by
  unfold startMetronome Metronome.start
  by_cases hrunning : a.session.metronome.running = true
  · simp only [if_pos hrunning]
    exact told_other .alreadyRunning (by decide)
  · simp only [if_neg hrunning]
    exact ⟨some .started, .started (Bool.eq_false_iff.2 hrunning) rfl⟩

theorem told_stopMetronome (a : Assistant) :
    ∃ topic, Told a a.stopMetronome.1 topic a.stopMetronome.2 := by
  unfold stopMetronome Metronome.stop
  by_cases hrunning : a.session.metronome.running = true
  · simp only [if_pos hrunning]
    exact ⟨some .stopped, .stopped hrunning rfl⟩
  · simp only [if_neg hrunning]
    exact told_other .alreadyStopped (by decide)

theorem told_tapTempo (a : Assistant) (now : Instant) :
    ∃ topic, Told a (a.tapTempo now).1 topic (a.tapTempo now).2 := by
  unfold tapTempo
  dsimp only
  split
  · exact ⟨some .tempoSet, .tempoSet⟩
  · exact told_other .tapAgain (by decide)

theorem told_turnTo (a : Assistant) (move : Pager → Pager) :
    ∃ topic, Told a (a.turnTo move).1 topic (a.turnTo move).2 := by
  unfold turnTo
  split
  · exact told_other .noScore (by decide)
  · exact ⟨some .page, .page _ rfl⟩

theorem told_askAboutScore (a : Assistant) (question : Response)
    (h : Topic.of? question.text = none) :
    ∃ topic, Told a a topic (a.askAboutScore question) := by
  unfold askAboutScore
  split
  · exact told_other .noScore (by decide)
  · exact told_other question h

theorem told_scheduleTurn (a : Assistant) (now : Instant) (bars : Nat) :
    ∃ topic, Told a (a.scheduleTurn now bars).1 topic (a.scheduleTurn now bars).2 := by
  unfold scheduleTurn
  split
  · exact told_other .noScore (by decide)
  -- only a slot that goes on has a turn to tell of
  · cases hended : a.slot.ended with
    | true =>
      simp only [TurnSlot.arm_of_ended hended]
      exact told_other .turnRefused (by decide)
    | false =>
      simp only [TurnSlot.arm_of_not_ended hended]
      generalize timeOfBars bars a.session.metronome.tempo.bpm = delay
      exact ⟨some .turn, .turn ⟨a.slot.nextId, delay, now + delay, bars⟩ rfl rfl rfl⟩

/-- **Answers**: every intent is answered with one of the sentences, and what it tells is so. -/
theorem exists_told (a : Assistant) (now : Instant) (intent : Intent) :
    ∃ topic, Told a (a.carryOut now intent).1 topic (a.carryOut now intent).2 := by
  match intent with
  | .startMetronome => exact a.told_startMetronome
  | .stopMetronome => exact a.told_stopMetronome
  | .tapTempo => exact a.told_tapTempo now
  | .queryTempo => exact ⟨some .tempoIs, .tempoIs⟩
  | .setTempo (some bpm) => exact ⟨some .tempoSet, .tempoSet⟩
  | .adjustTempo delta .up => exact ⟨some .tempoSet, .tempoSet⟩
  | .adjustTempo delta .down => exact ⟨some .tempoSet, .tempoSet⟩
  | .setSubdivision (some s) => exact ⟨some .subdivision, .subdivision⟩
  | .nextPage => exact a.told_turnTo Pager.next
  | .prevPage => exact a.told_turnTo Pager.prev
  | .gotoPage (some page) => exact a.told_turnTo (·.goto page)
  | .schedulePageTurn (some (bars + 1)) => exact a.told_scheduleTurn now (bars + 1)
  -- what is missing is asked for, if there is a score to ask about
  | .gotoPage none => exact a.told_askAboutScore .askPage (by decide)
  | .schedulePageTurn none => exact a.told_askAboutScore .askBars (by decide)
  | .schedulePageTurn (some 0) => exact a.told_askAboutScore .askBars (by decide)
  | .setTempo none => exact told_other .askTempo (by decide)
  | .setSubdivision none => exact told_other .askSubdivision (by decide)
  | .help => exact told_other .help (by decide +kernel)
  | .quit => exact told_other .goodbye (by decide)
  | .unknown => exact told_other .notUnderstood (by decide)

/-! ## The transport -/

/-- Only starting and stopping the metronome changes its transport. -/
theorem running_carryOut (hstart : intent ≠ .startMetronome) (hstop : intent ≠ .stopMetronome)
    (a : Assistant) (now : Instant) :
    (a.carryOut now intent).1.session.metronome.running = a.session.metronome.running := by
  -- it concerns the side of the beat alone
  have hbeat : (a.carryOut now intent).1.session.metronome =
      (a.beat.carryOut now intent).metronome :=
    congrArg Beat.metronome (a.sides_carryOut now intent).1
  rw [hbeat]
  match intent with
  | .startMetronome => exact absurd rfl hstart
  | .stopMetronome => exact absurd rfl hstop
  | .tapTempo =>
    show (a.beat.tap now).metronome.running = _
    unfold Beat.tap
    split
    · rfl
    · rfl
  | .adjustTempo delta .up | .adjustTempo delta .down => rfl
  | .setTempo (some bpm) | .setTempo none => rfl
  | .setSubdivision (some s) | .setSubdivision none => rfl
  | .queryTempo | .help | .quit | .unknown => rfl
  | .nextPage | .prevPage | .gotoPage _ | .schedulePageTurn _ => rfl

/-- If the metronome comes to run, this is what is answered. -/
theorem answer_of_started (hbefore : a.session.metronome.running = false)
    (hafter : (a.carryOut now intent).1.session.metronome.running = true) :
    (a.carryOut now intent).2 = .started := by
  -- only the intent to start it can have started it
  by_cases hstart : intent = .startMetronome
  · subst hstart
    show a.startMetronome.2 = .started
    simp [startMetronome, Metronome.start, hbefore]
  · by_cases hstop : intent = .stopMetronome
    · subst hstop
      have hrunning : a.stopMetronome.1.session.metronome.running = true := hafter
      simp [stopMetronome, Metronome.stop, hbefore] at hrunning
    · rw [running_carryOut hstart hstop, hbefore] at hafter
      cases hafter

/-- If the metronome comes to stand still, this is what is answered. -/
theorem answer_of_stopped (hbefore : a.session.metronome.running = true)
    (hafter : (a.carryOut now intent).1.session.metronome.running = false) :
    (a.carryOut now intent).2 = .stopped := by
  -- only the intent to stop it can have stopped it
  by_cases hstop : intent = .stopMetronome
  · subst hstop
    show a.stopMetronome.2 = .stopped
    simp [stopMetronome, Metronome.stop, hbefore]
  · by_cases hstart : intent = .startMetronome
    · subst hstart
      have hrunning : a.startMetronome.1.session.metronome.running = false := hafter
      simp [startMetronome, Metronome.start, hbefore] at hrunning
    · rw [running_carryOut hstart hstop, hbefore] at hafter
      cases hafter

/-! ## All that came before -/

/-- What can be done to an assistant, one thing at a time and in any order: by the musician, by the
    background, and around them. A turn that the slot let go of may be fired at any time after that,
    so any turn may be fired. -/
inductive Leads (a : Assistant) : Assistant → Prop where
  | intent (now : Instant) (intent : Intent) : Leads a (a.carryOut now intent).1
  | lookAtTicks (now : Instant) : Leads a
      { a with session := { a.session with metronome := (a.session.metronome.look now).1 } }
  | letGo (now : Instant) : Leads a { a with slot := (a.slot.look now).1 }
  | fire (turn : PageTurn) : Leads a (a.fire turn).1
  | showPage : Leads a a.showCurrent.1
  | forget : Leads a a.forgetScheduled
  | load (pager : Option Pager) : Leads a (a.load pager)
  | shutdown : Leads a a.shutdown

/-- The second assistant is what comes of the first one in the end, whatever is done. -/
abbrev Becomes : Assistant → Assistant → Prop := Relation.ReflTransGen Leads

/-- The turn was the scheduled one at some time on the way from the first assistant to this one. -/
def WasScheduled (first a : Assistant) (turn : PageTurn) : Prop :=
  ∃ b, Becomes first b ∧ Becomes b a ∧ b.session.scheduled = some turn

/-- The number of the scheduled turn is used up. -/
def Numbered (a : Assistant) : Prop :=
  ∀ turn, a.session.scheduled = some turn → turn.id < a.slot.nextId

variable {b first : Assistant}

theorem slot_fire (a : Assistant) (turn : PageTurn) : (a.fire turn).1.slot = a.slot := by
  unfold fire
  split
  · dsimp only
    split
    · rfl
    · rfl
  · rfl

/-- A turn that is fired is scheduled no longer, and no other one is. -/
theorem scheduled_fire (a : Assistant) (turn : PageTurn) :
    (a.fire turn).1.session.scheduled = none ∨
      (a.fire turn).1.session.scheduled = a.session.scheduled := by
  unfold fire
  split
  · dsimp only
    split
    · exact .inl rfl
    · exact .inl rfl
  · exact .inr rfl

theorem sameTurn_showCurrent (a : Assistant) :
    a.showCurrent.1.slot = a.slot ∧ a.showCurrent.1.session = a.session := by
  unfold showCurrent
  split
  · exact ⟨rfl, rfl⟩
  · exact ⟨rfl, rfl⟩

/-- **Step**: the next number never goes down. -/
theorem Leads.nextId_le (h : Leads a b) : a.slot.nextId ≤ b.slot.nextId := by
  cases h with
  | intent now intent =>
    -- arming uses up a number, and nothing else moves it
    cases harms : a.arms? now intent with
    | some turn =>
      rw [carryOut_of_arms harms]
      exact Nat.le_succ _
    | none => exact (keepsTurn_carryOut harms).nextId_le
  | letGo now => exact Nat.le_of_eq (a.slot.nextId_look now).symm
  | fire turn => exact Nat.le_of_eq (congrArg TurnSlot.nextId (a.slot_fire turn)).symm
  | showPage => exact Nat.le_of_eq (congrArg TurnSlot.nextId a.sameTurn_showCurrent.1).symm
  | shutdown => exact Nat.le_of_eq a.slot.nextId_cancel.symm
  | lookAtTicks now => exact Nat.le_refl _
  | forget => exact Nat.le_refl _
  | load pager => exact Nat.le_refl _

/-- What becomes of the scheduled turn: it is gone, it stays, or it is one whose number has just
    been used up. -/
theorem Leads.scheduled_cases (h : Leads a b) :
    b.session.scheduled = none ∨ b.session.scheduled = a.session.scheduled ∨
      ∃ turn, b.session.scheduled = some turn ∧ turn.id < b.slot.nextId := by
  cases h with
  | intent now intent =>
    -- a turn becomes the scheduled one only when it is armed
    cases harms : a.arms? now intent with
    | some turn =>
      obtain ⟨bars, -, -, -, hturn⟩ := arms?_eq_some harms
      rw [carryOut_of_arms harms]
      refine .inr (.inr ⟨turn, rfl, ?_⟩)
      show turn.id < a.slot.nextId + 1
      rw [hturn]
      exact Nat.lt_succ_self _
    | none => exact .inr (.inl (keepsTurn_carryOut harms).scheduled)
  | fire turn =>
    rcases a.scheduled_fire turn with hnone | hsame
    · exact .inl hnone
    · exact .inr (.inl hsame)
  | showPage => exact .inr (.inl (congrArg Session.scheduled a.sameTurn_showCurrent.2))
  | forget => exact .inl rfl
  | shutdown => exact .inl rfl
  | lookAtTicks now => exact .inr (.inl rfl)
  | letGo now => exact .inr (.inl rfl)
  | load pager => exact .inr (.inl rfl)

/-- **Step**: the number of the scheduled turn stays used up. -/
theorem Leads.numbered (h : Leads a b) (hnumbered : a.Numbered) : b.Numbered := by
  intro turn hturn
  rcases h.scheduled_cases with hnone | hsame | ⟨new, hnew, hid⟩
  · rw [hnone] at hturn
    cases hturn
  · rw [hsame] at hturn
    exact Nat.lt_of_lt_of_le (hnumbered turn hturn) h.nextId_le
  · rw [hnew] at hturn
    obtain rfl : new = turn := Option.some.inj hturn
    exact hid

/-- **Run**: a turn that was scheduled at any time before has a smaller number than the next one. -/
theorem id_lt_of_wasScheduled (hfirst : first.Numbered) {turn : PageTurn}
    (h : WasScheduled first a turn) : turn.id < a.slot.nextId := by
  obtain ⟨b, hbefore, hafter, hturn⟩ := h
  -- its number was used up when it was scheduled
  have hnumbered : b.Numbered := by
    clear hafter hturn
    induction hbefore with
    | refl => exact hfirst
    | tail _ hstep ih => exact hstep.numbered ih
  -- and numbers are not given back
  have hle : b.slot.nextId ≤ a.slot.nextId := by
    clear hbefore
    induction hafter with
    | refl => exact Nat.le_refl _
    | tail _ hstep ih => exact Nat.le_trans ih hstep.nextId_le
  exact Nat.lt_of_lt_of_le (hnumbered turn hturn) hle

/-- **Step**: a happening of a session under way is nothing else than such a doing, or two. -/
theorem becomes_undergo (p : Practice) (h : Happening) :
    Becomes p.assistant (p.undergo h).1.assistant := by
  cases h with
  | act s =>
    cases s with
    | intent intent => exact .single (.intent p.clock intent)
    | showPage => exact .single .showPage
    | shutdown => exact .single .shutdown
    | forgetScheduled => exact .single .forget
    | load pager => exact .single (.load pager)
    | advance distance times => exact .refl
    | nothing => exact .refl
  | lookAtTicks => exact .single (.lookAtTicks p.clock)
  | lookAtTurn =>
    -- the slot lets go of its turn, and what it lets go of is fired
    have hlets := Leads.letGo (a := p.assistant) p.clock
    simp only [Practice.undergo, Practice.lookAtTurn]
    split
    · rename_i slot turn hlook
      rw [hlook] at hlets
      exact (Relation.ReflTransGen.single hlets).tail (.fire turn)
    · rename_i slot hlook
      rw [hlook] at hlets
      exact .single hlets
  | pass time => exact .refl
  | read => exact .refl

/-- **Run**: so is every run of a session. -/
theorem becomes_afterSteps (p : Practice) (steps : List PracticeStep) :
    Becomes p.assistant (p.afterSteps steps).assistant := by
  -- by happenings first, which are single steps of the assistant
  have hafter : ∀ (hs : List Happening) (p : Practice),
      Becomes p.assistant (p.after hs).assistant := by
    intro hs
    induction hs with
    | nil => exact fun p => .refl
    | cons h hs ih => exact fun p => (becomes_undergo p h).trans (ih _)
  induction steps generalizing p with
  | nil => exact .refl
  | cons s steps ih =>
    have hstep : Becomes p.assistant (p.step s).1.assistant := by
      rw [p.step_eq_live s]
      exact hafter s.happenings p
    exact hstep.trans (ih _)

/-! ## Truth -/

/-- A turn after so many bars has just been armed: it is the scheduled turn and the pending turn,
    and its number is larger than that of every turn that was scheduled before. -/
def NewTurn (first a b : Assistant) (bars : Nat) : Prop :=
  ∃ turn, b.session.scheduled = some turn ∧ b.slot.pending = some turn ∧ turn.bars = bars ∧
    ∀ old, WasScheduled first a old → old.id < turn.id

/-- What `r`, the answer to an intent, says of the session is so in `b`, which the intent leaves,
    and what it says of a change has happened since `a`. -/
structure TrueAnswer (first a b : Assistant) (intent : Intent) (r : Response) : Prop where
  /-- The tempo that was set is the stored one. -/
  tempoSet : ∀ n : Nat, r.text = "Tempo set to " ++ toString n ++ " BPM." →
    b.session.metronome.tempo.bpm = n
  /-- The tempo is the stored one. -/
  tempoIs : ∀ n : Nat, r.text = "Tempo is " ++ toString n ++ " BPM." →
    b.session.metronome.tempo.bpm = n
  /-- The page is the current one. -/
  page : ∀ n : Nat, r.text = "Page " ++ toString n ++ "." → b.session.page? = some n
  /-- The subdivision is the stored one. -/
  subdivision : ∀ name : String, r.text = "Subdivision set to " ++ name ++ "." →
    b.session.metronome.tempo.subdivision.name = name
  /-- The metronome was stopped and is running. -/
  started : r.text = "Metronome started." ↔
    a.session.metronome.running = false ∧ b.session.metronome.running = true
  /-- The metronome was running and is stopped. -/
  stopped : r.text = "Metronome stopped." ↔
    a.session.metronome.running = true ∧ b.session.metronome.running = false
  /-- A turn after so many bars is new. -/
  turn : ∀ n : Nat, r.text = "Okay, turning the page in " ++ toString n ++
    (if n = 1 then " bar." else " bars.") ↔ NewTurn first a b n
  /-- The conversation ends. -/
  quits : r.quits = true ↔ intent = .quit

section Telling

variable {b : Assistant} {topic : Option Topic} {r : Response} {n : Nat}

theorem bpm_of_tempoSet (told : Told a b topic r) (h : r.text = (Response.tempoSet n).text) :
    b.session.metronome.tempo.bpm = n := by
  obtain rfl := told.topic_eq .tempoSet h
  cases told with
  | tempoSet => exact Response.tempoSet_inj h

theorem bpm_of_tempoIs (told : Told a b topic r) (h : r.text = (Response.tempoIs n).text) :
    b.session.metronome.tempo.bpm = n := by
  obtain rfl := told.topic_eq .tempoIs h
  cases told with
  | tempoIs => exact Response.tempoIs_inj h

theorem page_of_pageIs (told : Told a b topic r) (h : r.text = (Response.pageIs n).text) :
    b.session.page? = some n := by
  obtain rfl := told.topic_eq .page h
  cases told with
  | page m hpage => rw [hpage, Response.pageIs_inj h]

theorem name_of_subdivisionSet {name : String} (told : Told a b topic r)
    (h : r.text = "Subdivision set to " ++ name ++ ".") :
    b.session.metronome.tempo.subdivision.name = name := by
  obtain rfl := told.topic_eq .subdivision h
  cases told with
  | subdivision => exact Response.eq_of_between h

theorem started_of_text (told : Told a b topic r) (h : r.text = Response.started.text) :
    a.session.metronome.running = false ∧ b.session.metronome.running = true := by
  have htopic : topic = some .started := by
    rw [← told.of?_text, h]
    exact Topic.started.of?_lead
  subst htopic
  cases told with
  | started hbefore hafter => exact ⟨hbefore, hafter⟩

theorem stopped_of_text (told : Told a b topic r) (h : r.text = Response.stopped.text) :
    a.session.metronome.running = true ∧ b.session.metronome.running = false := by
  have htopic : topic = some .stopped := by
    rw [← told.of?_text, h]
    exact Topic.stopped.of?_lead
  subst htopic
  cases told with
  | stopped hbefore hafter => exact ⟨hbefore, hafter⟩

/-- The turn that is told of took a number that no turn had before. -/
theorem newTurn_of_text (hold : ∀ old, WasScheduled first a old → old.id < a.slot.nextId)
    (told : Told a b topic r) (h : r.text = (Response.turnScheduled n).text) :
    NewTurn first a b n := by
  obtain rfl := told.topic_eq .turn h
  cases told with
  | turn turn hscheduled hpending hid =>
    refine ⟨turn, hscheduled, hpending, Response.turnScheduled_inj h, ?_⟩
    intro old hwas
    rw [hid]
    exact hold old hwas

end Telling

/-- A new turn is told of: one that is there already is not new. -/
theorem text_of_newTurn {n : Nat} (reached : Becomes first a)
    (h : NewTurn first a (a.carryOut now intent).1 n) :
    (a.carryOut now intent).2.text = (Response.turnScheduled n).text := by
  obtain ⟨turn, hturn, -, hbars, hnew⟩ := h
  cases harms : a.arms? now intent with
  | some armed =>
    rw [carryOut_of_arms harms] at hturn ⊢
    obtain rfl : armed = turn := Option.some.inj hturn
    rw [← hbars]
  | none =>
    rw [(keepsTurn_carryOut harms).scheduled] at hturn
    exact absurd (hnew turn ⟨a, reached, .refl, hturn⟩) (Nat.lt_irrefl _)

theorem quits_iff (a : Assistant) (now : Instant) (intent : Intent) :
    (a.carryOut now intent).2.quits = true ↔ intent = .quit := by
  constructor
  · intro h
    by_contra hother
    rw [(goesOn_carryOut hother a now).quits] at h
    cases h
  · rintro rfl
    rfl

/-- A turn that fires is announced with the page that it leaves open, and one that is not the
    scheduled turn, or finds no score, is not announced. -/
theorem announcement_fire (a : Assistant) (turn : PageTurn) :
    (a.fire turn).2 =
      if a.session.isScheduled turn.id = true then
        (a.fire turn).1.session.page?.map fun n => "Page " ++ toString n ++ "."
      else none := by
  unfold fire
  by_cases hscheduled : a.session.isScheduled turn.id = true
  · simp only [if_pos hscheduled]
    cases hpager : a.session.pager with
    | none => simp [Session.page?]
    | some pager => rfl
  · simp only [if_neg hscheduled]

/-- **Answers tell the truth**: take a new session, with a score or without, and anything that comes
    of it. What is answered to an intent is so in the session that the intent leaves, and what is
    announced of a page turn is the page that the turn leaves open. -/
theorem answers_are_true {metronome : Metronome} {pager : Option Pager} {failing : Bool}
    {a : Assistant} (reached : Becomes (.start (.start metronome pager) failing) a) :
    (∀ now intent, TrueAnswer (.start (.start metronome pager) failing) a
        (a.carryOut now intent).1 intent (a.carryOut now intent).2) ∧
      ∀ turn, (a.fire turn).2 =
        if a.session.isScheduled turn.id = true then
          (a.fire turn).1.session.page?.map fun n => "Page " ++ toString n ++ "."
        else none := by
  refine ⟨?_, a.announcement_fire⟩
  intro now intent
  -- nothing is scheduled at the beginning
  have hfirst : (Assistant.start (.start metronome pager) failing).Numbered := by
    intro turn hturn
    cases hturn
  obtain ⟨topic, told⟩ := a.exists_told now intent
  exact {
    tempoSet := fun n h => bpm_of_tempoSet told h
    tempoIs := fun n h => bpm_of_tempoIs told h
    page := fun n h => page_of_pageIs told h
    subdivision := fun name h => name_of_subdivisionSet told h
    started := ⟨started_of_text told, fun h => congrArg Response.text (answer_of_started h.1 h.2)⟩
    stopped := ⟨stopped_of_text told, fun h => congrArg Response.text (answer_of_stopped h.1 h.2)⟩
    turn := fun n => ⟨newTurn_of_text (fun old => id_lt_of_wasScheduled hfirst) told,
      text_of_newTurn reached⟩
    quits := a.quits_iff now intent }

/-- While a turn waits, a tempo out of range is asked for, and another turn. What is told is the
    tempo that is stored, and the other turn is a new one. -/
theorem answers_are_true_of_waiting_turn :
    ∃ first a : Assistant, Becomes first a ∧
      (a.carryOut 7 (.setTempo (some 999))).2.text = "Tempo set to " ++ toString 300 ++ " BPM." ∧
      (a.carryOut 7 (.setTempo (some 999))).1.session.metronome.tempo.bpm = 300 ∧
      NewTurn first a (a.carryOut 7 (.schedulePageTurn (some 1))).1 1 := by
  let first : Assistant := .start (.start (.atTempo .initial) (some (.ofPath "etude.pdf"))) false
  let a : Assistant := (first.carryOut 5 (.schedulePageTurn (some 4))).1
  have reached : Becomes first a := .single (.intent 5 _)
  have htempo : (a.carryOut 7 (.setTempo (some 999))).2.text =
      "Tempo set to " ++ toString 300 ++ " BPM." := rfl
  have hturn : (a.carryOut 7 (.schedulePageTurn (some 1))).2.text =
      "Okay, turning the page in " ++ toString 1 ++ (if 1 = 1 then " bar." else " bars.") := rfl
  obtain ⟨told, -⟩ := answers_are_true reached
  exact ⟨first, a, reached, htempo, (told 7 _).tempoSet 300 htempo, ((told 7 _).turn 1).1 hturn⟩

end Assistant

end Rehearsal
