import Rehearsal.Proofs.Past
import Rehearsal.Proofs.Session.Arming

/-! # A scheduled page turn takes effect at most once

  Page turns are armed and cancelled by one party and fired by another, and the two meet only
  at the session. A `History` is any order in which their steps can fall: intents are carried
  out, the scheduled turn is forgotten, the background is ended, the slot lets go of a due turn,
  and any turn that was ever armed is fired, late, after another one, or again.

  `IsCurrent` reads off the marks of a history alone which turn is the current one. The key
  invariant is `Tracks`: the scheduled turn of the session is the current turn of the history.

  Main statement: `fire_takes_effect_iff_current`.
-/

namespace Rehearsal

/-! ## Histories -/

/-- What a step of a history leaves behind. -/
inductive Mark where
  | armed (turn : PageTurn)
  /-- The turn with the number was fired, with what was announced. -/
  | fired (id : Nat) (announcement : Option String)
  | cleared
  | ended
  | unrelated
  deriving DecidableEq, Repr

namespace Mark

/-- The mark of an intent that arms a turn or none. -/
def ofArming : Option PageTurn → Mark
  | some turn => .armed turn
  | none => .unrelated

/-- After the mark, a turn with the number that was armed before it is not current any more. -/
def Outdates (id : Nat) : Mark → Prop
  | .armed _ => True
  | .fired i _ => i = id
  | .cleared => True
  | .ended => True
  | .unrelated => False

/-- Whether the turn with the number was fired and announced. -/
def announces (id : Nat) : Mark → Bool
  | .fired i (some _) => i == id
  | _ => false

end Mark

/-- The marks and the assistant that some steps lead to, in any order. -/
inductive History (first : Assistant) : List Mark → Assistant → Prop where
  /-- No step yet. -/
  | start : History first [] first
  /-- An intent is carried out. -/
  | carryOut {marks : List Mark} {a : Assistant} (now : Instant) (intent : Intent) :
      History first marks a →
        History first (marks ++ [.ofArming (a.arms? now intent)]) (a.carryOut now intent).1
  /-- The scheduled turn is forgotten. -/
  | forget {marks : List Mark} {a : Assistant} :
      History first marks a → History first (marks ++ [.cleared]) a.forgetScheduled
  /-- The background is ended. -/
  | shutdown {marks : List Mark} {a : Assistant} :
      History first marks a → History first (marks ++ [.ended]) a.shutdown
  /-- The slot lets go of its turn if it is due; the turn waits for the session. -/
  | letGo {marks : List Mark} {a : Assistant} (now : Instant) :
      History first marks a → History first marks { a with slot := (a.slot.look now).1 }
  /-- A turn that was armed at any time before is fired. -/
  | fire {marks : List Mark} {a : Assistant} {turn : PageTurn} :
      History first marks a → .armed turn ∈ marks →
        History first (marks ++ [.fired turn.id (a.fire turn).2]) (a.fire turn).1

/-- The turn with the number is the one armed last, and since then it was not fired, no
    scheduled turn was forgotten and the background was not ended. -/
def IsCurrent (id : Nat) (marks : List Mark) : Prop :=
  ∃ earlier turn later, marks = earlier ++ .armed turn :: later ∧ turn.id = id ∧
    ∀ m ∈ later, ¬ m.Outdates id

/-- Firing the turn moves one page forward, shows that page once, announces it, clears the
    scheduled turn and counts as one change. -/
def TakesEffect (a : Assistant) (turn : PageTurn) : Prop :=
  ∃ pager, a.session.pager = some pager ∧
    a.fire turn =
      ({ a with
          session := { a.session with
            pager := some pager.next
            scheduled := none
            version := a.session.version + 1 }
          viewer := { a.viewer with
            shown := a.viewer.shown ++ [⟨pager.path, pager.next.current⟩] } },
        some (Response.pageIs pager.next.current).text)

/-! ## The current turn, mark by mark -/

/-- One more mark: the turn that it arms is current, and a turn that was current stays so
    unless the mark outdates it. -/
theorem isCurrent_snoc {id : Nat} {marks : List Mark} {m : Mark} :
    IsCurrent id (marks ++ [m]) ↔
      (∃ turn, m = .armed turn ∧ turn.id = id) ∨ (IsCurrent id marks ∧ ¬ m.Outdates id) := by
  -- being current is to be armed last, and not outdated since
  have hsince : ∀ ms : List Mark, IsCurrent id ms ↔
      Since (fun m => ∃ turn, m = .armed turn ∧ turn.id = id) (fun m => ¬ m.Outdates id) ms := by
    intro ms
    constructor
    · rintro ⟨earlier, turn, later, hsplit, hid, hlater⟩
      exact ⟨earlier, .armed turn, later, hsplit, ⟨turn, rfl, hid⟩, hlater⟩
    · rintro ⟨earlier, _, later, hsplit, ⟨turn, rfl, hid⟩, hlater⟩
      exact ⟨earlier, turn, later, hsplit, hid, hlater⟩
  rw [hsince, hsince, since_snoc]

/-! ## Firing -/

namespace Assistant

variable {a : Assistant} {turn : PageTurn}

theorem fire_of_not_scheduled (h : ¬ a.session.isScheduled turn.id = true) :
    a.fire turn = (a, none) := by
  unfold fire
  rw [if_neg h]

theorem takesEffect_of_scheduled (hpager : a.session.pager.isSome = true)
    (h : a.session.isScheduled turn.id = true) : TakesEffect a turn := by
  obtain ⟨pager, hpager⟩ := Option.isSome_iff_exists.1 hpager
  refine ⟨pager, hpager, ?_⟩
  unfold fire
  rw [if_pos h]
  simp only [hpager]
  rfl

theorem scheduled_of_takesEffect (h : TakesEffect a turn) :
    a.session.isScheduled turn.id = true := by
  obtain ⟨pager, -, hfire⟩ := h
  by_contra hnot
  rw [fire_of_not_scheduled hnot] at hfire
  cases (Prod.mk.inj hfire).2

end Assistant

theorem Session.isScheduled_unique {s : Session} {i j : Nat} (hi : s.isScheduled i = true)
    (hj : s.isScheduled j = true) : i = j := by
  unfold isScheduled at hi hj
  cases h : s.scheduled with
  | none =>
    rw [h] at hi
    cases hi
  | some turn =>
    rw [h] at hi hj
    simp only [Option.any_some, beq_iff_eq] at hi hj
    rw [← hi, ← hj]

/-! ## The invariant -/

/-- The session agrees with the marks about the current turn, and the turns of the marks have
    numbers that the slot has used up. -/
structure Tracks (marks : List Mark) (a : Assistant) : Prop where
  /-- A score is loaded. -/
  pager : a.session.pager.isSome = true
  /-- The scheduled turn is the current one. -/
  current : ∀ id, a.session.isScheduled id = true ↔ IsCurrent id marks
  /-- No number is ahead of the slot. -/
  armed_lt : ∀ turn, .armed turn ∈ marks → turn.id < a.slot.nextId
  /-- A number that the slot has not used up was not announced. -/
  unused : ∀ id, a.slot.nextId ≤ id → marks.countP (·.announces id) = 0
  /-- The current turn was not announced yet. -/
  unannounced : ∀ id, IsCurrent id marks → marks.countP (·.announces id) = 0
  /-- No turn was announced twice. -/
  once : ∀ id, marks.countP (·.announces id) ≤ 1

namespace Tracks

variable {marks : List Mark} {a b : Assistant} {m : Mark}

theorem countP_snoc_of_not {id : Nat} (h : m.announces id = false) :
    (marks ++ [m]).countP (·.announces id) = marks.countP (·.announces id) := by
  simp [h]

/-- A mark that neither arms nor announces a turn, after a step that keeps the score. The
    session has to agree with the mark about the current turn. -/
theorem snoc_quiet (t : Tracks marks a) (hannounce : ∀ id, m.announces id = false)
    (harm : ∀ turn, m ≠ .armed turn) (hpager : b.session.pager.isSome = a.session.pager.isSome)
    (hnext : a.slot.nextId ≤ b.slot.nextId)
    (hcurrent : ∀ id, b.session.isScheduled id = true ↔
      a.session.isScheduled id = true ∧ ¬ m.Outdates id) :
    Tracks (marks ++ [m]) b := by
  -- what is current afterwards was current before
  have hsnoc : ∀ id, IsCurrent id (marks ++ [m]) ↔ IsCurrent id marks ∧ ¬ m.Outdates id := by
    intro id
    rw [isCurrent_snoc]
    constructor
    · rintro (⟨turn, rfl, -⟩ | h)
      · exact absurd rfl (harm turn)
      · exact h
    · exact .inr
  refine ⟨hpager.trans t.pager, ?_, ?_, ?_, ?_, ?_⟩
  · intro id
    rw [hcurrent, hsnoc, t.current]
  · intro turn hturn
    rcases List.mem_append.1 hturn with hturn | hturn
    · exact Nat.lt_of_lt_of_le (t.armed_lt turn hturn) hnext
    · exact absurd (List.mem_singleton.1 hturn).symm (harm turn)
  · intro id hid
    rw [countP_snoc_of_not (hannounce id)]
    exact t.unused id (Nat.le_trans hnext hid)
  · intro id hid
    rw [countP_snoc_of_not (hannounce id)]
    exact t.unannounced id ((hsnoc id).1 hid).1
  · intro id
    rw [countP_snoc_of_not (hannounce id)]
    exact t.once id

theorem start (session : Session) (failing : Bool) (hpager : session.pager.isSome = true)
    (hnone : session.scheduled = none) : Tracks [] (.start session failing) := by
  refine ⟨hpager, ?_, ?_, ?_, ?_, ?_⟩
  · intro id
    constructor
    · intro h
      simp [Assistant.start, Session.isScheduled, hnone] at h
    · rintro ⟨earlier, turn, later, h, -, -⟩
      simp at h
  · intro turn h
    cases h
  · intro id _
    rfl
  · intro id _
    rfl
  · intro id
    exact Nat.zero_le _

/-- Arming takes a number that no mark has, so nothing was announced for it yet. -/
theorem arm (t : Tracks marks a) {now : Instant} {intent : Intent} {turn : PageTurn}
    (h : a.arms? now intent = some turn) :
    Tracks (marks ++ [.armed turn]) (a.carryOut now intent).1 := by
  obtain ⟨bars, -, -, -, hturn⟩ := Assistant.arms?_eq_some h
  have hid : turn.id = a.slot.nextId := by rw [hturn]
  rw [Assistant.carryOut_of_arms h]
  -- whatever was current before, now it is this turn
  have hsnoc : ∀ id, IsCurrent id (marks ++ [.armed turn]) ↔ turn.id = id := by
    intro id
    rw [isCurrent_snoc]
    constructor
    · rintro (⟨other, hother, hid⟩ | ⟨-, hnot⟩)
      · rw [Mark.armed.inj hother]
        exact hid
      · exact absurd trivial hnot
    · intro hid
      exact .inl ⟨turn, rfl, hid⟩
  have hcount : ∀ id, (marks ++ [Mark.armed turn]).countP (·.announces id) =
      marks.countP (·.announces id) := fun id => countP_snoc_of_not rfl
  refine ⟨t.pager, ?_, ?_, ?_, ?_, ?_⟩
  · intro id
    rw [hsnoc]
    simp [Assistant.change, Session.bump, Session.isScheduled]
  · intro other hother
    show other.id < a.slot.nextId + 1
    rcases List.mem_append.1 hother with hother | hother
    · exact Nat.lt_succ_of_lt (t.armed_lt other hother)
    · rw [Mark.armed.inj (List.mem_singleton.1 hother), hid]
      exact Nat.lt_succ_self _
  · intro id hle
    rw [hcount]
    exact t.unused id (Nat.le_of_succ_le hle)
  · intro id hcurrent
    rw [hcount, ← (hsnoc id).1 hcurrent, hid]
    exact t.unused _ (Nat.le_refl _)
  · intro id
    rw [hcount]
    exact t.once id

/-- Firing the current turn announces it for the first time and leaves no current turn. -/
theorem fire_current (t : Tracks marks a) {turn : PageTurn} (harmed : .armed turn ∈ marks)
    (h : a.session.isScheduled turn.id = true) :
    Tracks (marks ++ [.fired turn.id (a.fire turn).2]) (a.fire turn).1 := by
  obtain ⟨pager, -, hfire⟩ := Assistant.takesEffect_of_scheduled t.pager h
  rw [hfire]
  -- the number was used up, so marks of numbers still to come are not touched
  have hlt : turn.id < a.slot.nextId := t.armed_lt turn harmed
  have hother : ∀ id, turn.id ≠ id → (marks ++
      [Mark.fired turn.id (some (Response.pageIs pager.next.current).text)]).countP
        (·.announces id) = marks.countP (·.announces id) := by
    intro id hne
    exact countP_snoc_of_not (beq_eq_false_iff_ne.2 hne)
  have hnone : ∀ id, ¬ IsCurrent id (marks ++
      [.fired turn.id (some (Response.pageIs pager.next.current).text)]) := by
    intro id hid
    rcases isCurrent_snoc.1 hid with ⟨other, hother, -⟩ | ⟨hbefore, hnot⟩
    · cases hother
    · exact hnot (Session.isScheduled_unique h ((t.current id).2 hbefore))
  refine ⟨rfl, ?_, ?_, ?_, ?_, ?_⟩
  · intro id
    constructor
    · intro hid
      cases hid
    · intro hid
      exact absurd hid (hnone id)
  · intro other hother
    rcases List.mem_append.1 hother with hother | hother
    · exact t.armed_lt other hother
    · cases List.mem_singleton.1 hother
  · intro id hle
    rw [hother id (Nat.ne_of_lt (Nat.lt_of_lt_of_le hlt hle))]
    exact t.unused id hle
  · intro id hid
    exact absurd hid (hnone id)
  · intro id
    by_cases hid : turn.id = id
    · subst hid
      have hzero := t.unannounced turn.id ((t.current turn.id).1 h)
      rw [List.countP_append, hzero]
      simp [Mark.announces]
    · rw [hother id hid]
      exact t.once id

/-- Firing any other turn changes nothing. -/
theorem fire_stale (t : Tracks marks a) {turn : PageTurn}
    (h : ¬ a.session.isScheduled turn.id = true) :
    Tracks (marks ++ [.fired turn.id (a.fire turn).2]) (a.fire turn).1 := by
  rw [Assistant.fire_of_not_scheduled h]
  refine t.snoc_quiet (fun _ => rfl) (fun _ => Mark.noConfusion) rfl (Nat.le_refl _) ?_
  intro id
  constructor
  · intro hid
    refine ⟨hid, ?_⟩
    rintro rfl
    exact h hid
  · exact And.left

end Tracks

/-- Every history keeps track of the current turn. -/
theorem History.tracks {first a : Assistant} {marks : List Mark} (h : History first marks a)
    (hfirst : Tracks [] first) : Tracks marks a := by
  -- one case for each kind of step; all but arming and firing leave a quiet mark
  induction h with
  | start => exact hfirst
  | @carryOut marks a now intent _ ih =>
    cases harm : a.arms? now intent with
    | some turn => exact ih.arm harm
    | none =>
      have hkeep := Assistant.keepsTurn_carryOut harm
      refine ih.snoc_quiet (fun _ => rfl) (fun _ => Mark.noConfusion) hkeep.pager hkeep.nextId_le ?_
      intro id
      unfold Session.isScheduled
      rw [hkeep.scheduled]
      simp [Mark.ofArming, Mark.Outdates]
  | forget _ ih =>
    refine ih.snoc_quiet (fun _ => rfl) (fun _ => Mark.noConfusion) rfl (Nat.le_refl _) ?_
    intro id
    simp [Assistant.forgetScheduled, Session.isScheduled, Mark.Outdates]
  | @shutdown marks a _ ih =>
    refine ih.snoc_quiet (fun _ => rfl) (fun _ => Mark.noConfusion) rfl ?_ ?_
    · exact Nat.le_of_eq (a.slot.nextId_cancel).symm
    · intro id
      simp [Assistant.shutdown, Assistant.change, Session.bump, Session.isScheduled, Mark.Outdates]
  | @letGo marks a now _ ih =>
    have hnext := a.slot.nextId_look now
    exact ⟨ih.pager, ih.current, fun turn h => hnext ▸ ih.armed_lt turn h,
      fun id h => ih.unused id (hnext ▸ h), ih.unannounced, ih.once⟩
  | @fire marks a turn _ harmed ih =>
    by_cases hscheduled : a.session.isScheduled turn.id = true
    · exact ih.fire_current harmed hscheduled
    · exact ih.fire_stale hscheduled

/-! ## At most once, and only the current turn -/

/-- **At most once**: take a new session with a score and any history of it. Firing a turn takes
    effect exactly if its number is that of the current turn; otherwise it changes nothing and
    announces nothing. No turn is announced twice in a history. -/
theorem fire_takes_effect_iff_current {metronome : Metronome} {pager : Pager} {failing : Bool}
    {marks : List Mark} {a : Assistant}
    (history : History (.start (.start metronome (some pager)) failing) marks a)
    (turn : PageTurn) :
    (TakesEffect a turn ↔ IsCurrent turn.id marks) ∧
      (¬ IsCurrent turn.id marks → a.fire turn = (a, none)) ∧
      marks.countP (·.announces turn.id) ≤ 1 := by
  have t : Tracks marks a := history.tracks (.start _ failing rfl rfl)
  refine ⟨⟨?_, ?_⟩, ?_, t.once turn.id⟩
  · intro h
    exact (t.current turn.id).1 (Assistant.scheduled_of_takesEffect h)
  · intro h
    exact Assistant.takesEffect_of_scheduled t.pager ((t.current turn.id).2 h)
  · intro h
    exact Assistant.fire_of_not_scheduled fun hscheduled => h ((t.current turn.id).1 hscheduled)

/-- A turn that was replaced comes too late; the one that replaced it takes effect. -/
theorem fire_takes_effect_iff_current_replaced :
    ∃ (marks : List Mark) (a : Assistant) (first second : PageTurn),
      History (.start (.start (.atTempo .initial) (some (.ofPath "etude.pdf"))) false) marks a ∧
        .armed first ∈ marks ∧ .armed second ∈ marks ∧
        a.fire first = (a, none) ∧ TakesEffect a second := by
  let long := timeOfBars 2 Tempo.initial.bpm
  let short := timeOfBars 1 Tempo.initial.bpm
  let first : PageTurn := ⟨1, long, 5 + long, 2⟩
  let second : PageTurn := ⟨2, short, 7 + short, 1⟩
  have history : History (.start (.start (.atTempo .initial) (some (.ofPath "etude.pdf"))) false)
      ([.armed first] ++ [.armed second]) _ :=
    (History.start.carryOut 5 (.schedulePageTurn (some 2))).carryOut 7 (.schedulePageTurn (some 1))
  -- the second turn took the place of the first
  have hfirst : ¬ IsCurrent first.id ([.armed first] ++ [.armed second]) := by
    rw [isCurrent_snoc]
    rintro (⟨turn, hturn, hid⟩ | ⟨-, hnot⟩)
    · cases hturn
      cases hid
    · exact hnot trivial
  have hsecond : IsCurrent second.id ([.armed first] ++ [.armed second]) :=
    isCurrent_snoc.2 (.inl ⟨second, rfl, rfl⟩)
  exact ⟨_, _, first, second, history, by simp, by simp,
    (fire_takes_effect_iff_current history first).2.1 hfirst,
    (fire_takes_effect_iff_current history second).1.2 hsecond⟩

end Rehearsal
