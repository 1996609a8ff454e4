import Rehearsal.Proofs.Session.Inert
import Rehearsal.Proofs.Session.TwoSides

/-! # What the viewer is asked for

  The viewer is asked for a page in three cases: an intent moves to a page, a scheduled turn takes
  effect, or the current page is to be shown. It is asked once, for the page that is open
  afterwards, and nobody looks at its answer.

  The turn slot works by itself. When it lets go of a turn, the turn may have to wait for the
  session, and comes late if it was replaced or cancelled in the meantime. So a run is made of
  `Moment`s: a look of the slot may be taken in two halves, with anything in between, and any turn
  at all may be fired.

  Two lemmas on one moment carry everything: `asked_or_not` says which page the viewer is asked for,
  and `meet_withFailing` that its failures make no difference.

  Main statement: `viewer_only_listens`.
-/

namespace Rehearsal

/-- A happening, or one half of a look of the turn slot. -/
inductive Moment where
  | happening (what : Happening)
  /-- The slot lets go of its turn if it is due. The turn waits for the session. -/
  | letGo
  /-- A turn is fired, be it the scheduled one or a late one. -/
  | fire (turn : PageTurn)
  deriving DecidableEq, Repr

namespace Practice

/-- One moment: the session after it, and what is seen of it. -/
def meet (p : Practice) : Moment → Practice × Sight
  | .happening what => p.undergo what
  | .letGo =>
    ({ p with assistant := { p.assistant with slot := (p.assistant.slot.look p.clock).1 } },
      .of .none)
  | .fire turn =>
    ({ p with assistant := (p.assistant.fire turn).1 },
      .of { PracticeEvents.none with announced := (p.assistant.fire turn).2.toList })

def meetAll (p : Practice) : List Moment → Practice × List Sight
  | [] => (p, [])
  | m :: ms =>
    let (p, first) := p.meet m
    let (p, rest) := meetAll p ms
    (p, first :: rest)

/-- Whether a turn takes effect: it is the scheduled one, and there is a page to turn. -/
def takesEffect (p : Practice) (turn : PageTurn) : Bool :=
  p.assistant.session.isScheduled turn.id && p.assistant.session.pager.isSome

/-- Whether the viewer is to be asked for a page. -/
def asksViewer (p : Practice) : Moment → Bool
  | .happening (.act (.intent .nextPage)) => p.assistant.session.pager.isSome
  | .happening (.act (.intent .prevPage)) => p.assistant.session.pager.isSome
  | .happening (.act (.intent (.gotoPage (some _)))) => p.assistant.session.pager.isSome
  | .happening (.act .showPage) => p.assistant.session.pager.isSome
  | .happening .lookAtTurn => (p.assistant.slot.look p.clock).2.any p.takesEffect
  | .fire turn => p.takesEffect turn
  | .happening _ | .letGo => false

/-- The pages that the viewer is asked for in some moments: one for each moment that asks for one,
    the page that is open after it, and none for any other. -/
inductive Asked : Practice → List Moment → List PageView → Prop where
  /-- Nothing yet. -/
  | nil {p : Practice} : Asked p [] []
  /-- The viewer is asked for the page that is open now. -/
  | asked {p : Practice} {m : Moment} {ms : List Moment} {views : List PageView} {pager : Pager} :
      p.asksViewer m = true → (p.meet m).1.assistant.session.pager = some pager →
        Asked (p.meet m).1 ms views → Asked p (m :: ms) (⟨pager.path, pager.current⟩ :: views)
  /-- The viewer is not asked. -/
  | unasked {p : Practice} {m : Moment} {ms : List Moment} {views : List PageView} :
      p.asksViewer m = false → Asked (p.meet m).1 ms views → Asked p (m :: ms) views

end Practice

/-! ## One moment -/

/-- From the first side of the pages to the second, the viewer is asked for the page that is open
    then, if `asks` says so, and for nothing otherwise. -/
def Pages.AskedOrNot (v w : Pages) (asks : Bool) : Prop :=
  if asks then
    ∃ pager, w.pager = some pager ∧ w.viewer.shown = v.viewer.shown ++ [⟨pager.path, pager.current⟩]
  else w.viewer.shown = v.viewer.shown

namespace Pages

variable {v : Pages} {now : Instant} {bpm : Nat}

theorem askedOrNot_turnTo (v : Pages) (move : Pager → Pager) :
    v.AskedOrNot (v.turnTo move) v.pager.isSome := by
  unfold turnTo
  cases h : v.pager with
  | none => rfl
  | some pager => exact ⟨move pager, rfl, rfl⟩

theorem askedOrNot_schedule (v : Pages) (bars : Nat) :
    v.AskedOrNot (v.schedule bpm now bars) false := by
  unfold schedule
  split
  · rfl
  · split
    · rfl
    · rfl

theorem askedOrNot_showPage (v : Pages) (bpm : Nat) (now : Instant) :
    v.AskedOrNot (v.act bpm now .showPage) v.pager.isSome := by
  unfold act
  cases h : v.pager with
  | none => simp [AskedOrNot]
  | some pager => exact ⟨pager, rfl, rfl⟩

theorem askedOrNot_fire (v : Pages) (turn : PageTurn) :
    v.AskedOrNot (v.fire turn).1
      ((v.scheduled.any fun t => t.id == turn.id) && v.pager.isSome) := by
  unfold fire
  cases hscheduled : v.scheduled.any fun t => t.id == turn.id with
  | false => rfl
  | true =>
    cases h : v.pager with
    | none => simp [AskedOrNot]
    | some pager => exact ⟨pager.next, rfl, rfl⟩

theorem askedOrNot_look (v : Pages) (now : Instant) :
    v.AskedOrNot (v.look now).1 ((v.slot.look now).2.any fun turn =>
      (v.scheduled.any fun t => t.id == turn.id) && v.pager.isSome) := by
  unfold look
  cases hlook : v.slot.look now with
  | mk slot fired =>
    cases fired with
    | none => rfl
    | some turn => exact askedOrNot_fire { v with slot } turn

end Pages

namespace Practice

variable {p : Practice}

/-- **Moment**: the viewer is asked once, for the page that is open afterwards, or not at all. -/
theorem asked_or_not (p : Practice) (m : Moment) :
    p.pages.AskedOrNot (p.meet m).1.pages (p.asksViewer m) := by
  match m with
  | .letGo => rfl
  | .fire turn =>
    have hfire : (p.meet (.fire turn)).1.pages = (p.pages.fire turn).1 :=
      congrArg Prod.fst (p.assistant.sides_fire turn).2
    rw [hfire]
    exact p.pages.askedOrNot_fire turn
  | .happening what =>
    show p.pages.AskedOrNot (p.undergo what).1.pages _
    rw [(p.pages_undergo what).1]
    match what with
    | .lookAtTurn => exact p.pages.askedOrNot_look p.clock
    | .act (.intent .nextPage) => exact p.pages.askedOrNot_turnTo _
    | .act (.intent .prevPage) => exact p.pages.askedOrNot_turnTo _
    | .act (.intent (.gotoPage (some _))) => exact p.pages.askedOrNot_turnTo _
    | .act (.intent (.schedulePageTurn (some (_ + 1)))) => exact p.pages.askedOrNot_schedule _
    | .act .showPage => exact p.pages.askedOrNot_showPage 0 0
    -- all else leaves the viewer alone
    | .act (.intent .startMetronome) | .act (.intent .stopMetronome) => rfl
    | .act (.intent .tapTempo) | .act (.intent .queryTempo) | .act (.intent (.setTempo _)) => rfl
    | .act (.intent (.adjustTempo ..)) | .act (.intent (.setSubdivision _)) => rfl
    | .act (.intent (.gotoPage none)) | .act (.intent (.schedulePageTurn none)) => rfl
    | .act (.intent (.schedulePageTurn (some 0))) | .act (.intent .help) => rfl
    | .act (.intent .quit) | .act (.intent .unknown) => rfl
    | .act (.advance ..) | .act .shutdown | .act .forgetScheduled | .act (.load _) => rfl
    | .act .nothing | .pass _ | .lookAtTicks | .read => rfl

end Practice

/-! ## A viewer that fails -/

/-- The same session with a viewer that fails at every request, or at none. -/
def Practice.withFailing (p : Practice) (failing : Bool) : Practice :=
  { p with assistant.viewer.failing := failing }

theorem inert_withFailing (failing : Bool) : Inert id fun v => { v with failing } :=
  ⟨fun _ _ => rfl, fun _ => rfl, fun _ _ => rfl⟩

namespace Practice

variable {p : Practice}

theorem scheduleTurn_withFailing (p : Practice) (bars : Nat) (failing : Bool) :
    (p.withFailing failing).act (.intent (.schedulePageTurn (some (bars + 1)))) =
      ((p.act (.intent (.schedulePageTurn (some (bars + 1))))).1.withFailing failing,
        (p.act (.intent (.schedulePageTurn (some (bars + 1))))).2) := by
  unfold act Assistant.carryOut Assistant.scheduleTurn withFailing
  dsimp only
  split
  · rfl
  · split <;> rfl

/-- **Moment**: whether the viewer fails makes no difference to what happens and to what is seen. -/
theorem meet_withFailing (p : Practice) (m : Moment) (failing : Bool) :
    (p.withFailing failing).meet m = ((p.meet m).1.withFailing failing, (p.meet m).2) := by
  have hinert := inert_withFailing failing
  cases m with
  | letGo => rfl
  | fire turn =>
    have hfire : (p.withFailing failing).assistant.fire turn = _ := hinert.fire p.assistant turn
    simp only [meet, hfire]
    rfl
  | happening what =>
    -- arming is the one happening that the general lemma leaves out
    by_cases hturn : ∃ bars, what = .act (.intent (.schedulePageTurn (some (bars + 1))))
    · obtain ⟨bars, rfl⟩ := hturn
      simp only [meet, undergo, scheduleTurn_withFailing]
    · exact hinert.undergo (fun bars hwhat => hturn ⟨bars, hwhat⟩) p

/-! ## Any number of moments -/

/-- **Run**: the record of the viewer grows by the pages that it was asked for. -/
theorem exists_asked (p : Practice) (moments : List Moment) :
    ∃ views, Asked p moments views ∧
      (p.meetAll moments).1.assistant.viewer.shown = p.assistant.viewer.shown ++ views := by
  induction moments generalizing p with
  | nil => exact ⟨[], .nil, (List.append_nil _).symm⟩
  | cons m ms ih =>
    obtain ⟨views, hviews, hshown⟩ := ih (p.meet m).1
    have hstep := p.asked_or_not m
    -- either the first moment shows its page, or the record stays as it was
    cases hasks : p.asksViewer m with
    | true =>
      rw [hasks] at hstep
      obtain ⟨pager, hpager, hfirst⟩ := hstep
      refine ⟨⟨pager.path, pager.current⟩ :: views, .asked hasks hpager hviews, ?_⟩
      have happend := congrArg (· ++ views) hfirst
      rw [List.append_assoc] at happend
      exact hshown.trans happend
    | false =>
      rw [hasks] at hstep
      exact ⟨views, .unasked hasks hviews, hshown.trans (congrArg (· ++ views) hstep)⟩

/-- **Run**: whether the viewer fails makes no difference. -/
theorem meetAll_withFailing (p : Practice) (moments : List Moment) (failing : Bool) :
    (p.withFailing failing).meetAll moments =
      ((p.meetAll moments).1.withFailing failing, (p.meetAll moments).2) := by
  induction moments generalizing p with
  | nil => rfl
  | cons m ms ih => simp only [meetAll, meet_withFailing, ih]

/-- **The viewer only listens**: whatever happens to a session, in whatever order, the viewer is
    asked once for every intent that moves to a page of a score, once for every scheduled turn that
    takes effect and once for every request to show a page of a score, and never else. Each time it
    is asked for the page that is open afterwards. If it fails at every request, all goes as if it
    succeeded: the same is answered, announced and shown, the session is the same throughout, and
    the viewer has the same record. -/
theorem viewer_only_listens (p : Practice) (moments : List Moment) :
    (∃ views, Asked p moments views ∧
      (p.meetAll moments).1.assistant.viewer.shown = p.assistant.viewer.shown ++ views) ∧
      ∀ failing, (p.withFailing failing).meetAll moments =
        ((p.meetAll moments).1.withFailing failing, (p.meetAll moments).2) := by
  constructor
  · exact p.exists_asked moments
  · intro failing
    exact p.meetAll_withFailing moments failing

/-- The slot lets go of a turn, another one is asked for before the first is fired, and the first
    comes too late. -/
example :
    let p := start (.start (.start (.atTempo .initial) (some (.ofPath "etude.pdf"))) true)
    let turn := fun id due => (⟨id, due, due, 1⟩ : PageTurn)
    (p.meetAll [.happening (.act (.intent .nextPage)),
        .happening (.act (.intent (.schedulePageTurn (some 1)))),
        .happening (.pass (Duration.ofSeconds 60)), .letGo,
        .happening (.act (.intent (.schedulePageTurn (some 1)))),
        .fire (turn 1 0), .fire (turn 2 0)]).1.assistant.viewer.shown =
      [⟨"etude.pdf", 2⟩, ⟨"etude.pdf", 3⟩] := by
  decide +kernel

end Practice

end Rehearsal
