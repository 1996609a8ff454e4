import Rehearsal.Session.Practice

/-! # Happenings of a session

  A step of a session is followed at once by the looks that the background takes. Seen more
  closely, a session is a row of happenings: something is done, time passes, the tick loop or the
  turn slot takes a look, ticks are read. They may come in any order, so a row of happenings says
  nothing about who is quicker, the musician or the background.

  Main statement: `step_eq_live`, every step is such a row.
-/

namespace Rehearsal

/-- What can happen in a session under way, one thing at a time. -/
inductive Happening where
  /-- A step is taken. The looks that follow it are happenings of their own, and so is a jump of
      the clock. -/
  | act (step : PracticeStep)
  | pass (time : Duration)
  | lookAtTicks
  | lookAtTurn
  | read
  deriving DecidableEq, Repr

/-- What is seen of a happening. -/
structure Sight where
  events : PracticeEvents
  read : List Tick
  deriving DecidableEq, Repr

namespace Sight

/-- Events, and no ticks read. -/
def of (events : PracticeEvents) : Sight := ⟨events, []⟩

def eventsOf (sights : List Sight) : PracticeEvents :=
  (sights.map Sight.events).foldr PracticeEvents.followedBy .none

end Sight

def PracticeStep.happenings : PracticeStep → List Happening
  | .advance distance times =>
    (List.replicate times [.pass distance, .lookAtTicks, .lookAtTurn]).flatten
  | s => [.act s, .lookAtTicks, .lookAtTurn]

namespace Practice

/-- One happening: the session after it, and what is seen of it. -/
def undergo (p : Practice) : Happening → Practice × Sight
  | .act s => let (p, events) := p.act s; (p, .of events)
  | .pass time => ({ p with clock := p.clock + time }, .of .none)
  | .lookAtTicks => let (p, ticks) := p.lookAtTicks; (p, .of { PracticeEvents.none with ticks })
  | .lookAtTurn =>
    let (p, announced) := p.lookAtTurn
    (p, .of { PracticeEvents.none with announced })
  | .read => let (p, ticks) := p.drain; (p, ⟨.none, ticks⟩)

def live (p : Practice) : List Happening → Practice × List Sight
  | [] => (p, [])
  | h :: hs =>
    let (p, first) := p.undergo h
    let (p, rest) := live p hs
    (p, first :: rest)

def after (p : Practice) (hs : List Happening) : Practice := (p.live hs).1

def seen (p : Practice) (hs : List Happening) : List Sight := (p.live hs).2

variable {p : Practice}

@[simp] theorem after_nil (p : Practice) : p.after [] = p := rfl

@[simp] theorem after_cons (p : Practice) (h : Happening) (hs : List Happening) :
    p.after (h :: hs) = (p.undergo h).1.after hs := rfl

@[simp] theorem seen_nil (p : Practice) : p.seen [] = [] := rfl

@[simp] theorem seen_cons (p : Practice) (h : Happening) (hs : List Happening) :
    p.seen (h :: hs) = (p.undergo h).2 :: (p.undergo h).1.seen hs := rfl

theorem after_append (p : Practice) (front back : List Happening) :
    p.after (front ++ back) = (p.after front).after back := by
  induction front generalizing p with
  | nil => rfl
  | cons h front ih => exact ih (p.undergo h).1

theorem seen_append (p : Practice) (front back : List Happening) :
    p.seen (front ++ back) = p.seen front ++ (p.after front).seen back := by
  induction front generalizing p with
  | nil => rfl
  | cons h front ih => exact congrArg ((p.undergo h).2 :: ·) (ih (p.undergo h).1)

/-! ## Steps are rows of happenings -/

theorem look_eq (p : Practice) :
    p.look = (p.after [.lookAtTicks, .lookAtTurn],
      Sight.eventsOf (p.seen [.lookAtTicks, .lookAtTurn])) := by
  simp [look, undergo, Sight.eventsOf, Sight.of, PracticeEvents.followedBy, PracticeEvents.none]

theorem jumps_eq (distance : Duration) (n : Nat) :
    p.jumps distance n =
      (p.after (List.replicate n [.pass distance, .lookAtTicks, .lookAtTurn]).flatten,
        Sight.eventsOf
          (p.seen (List.replicate n [.pass distance, .lookAtTicks, .lookAtTurn]).flatten)) := by
  induction n generalizing p with
  | zero => rfl
  | succ n ih =>
    rw [List.replicate_succ, List.flatten_cons, after_append, seen_append, jumps, look_eq]
    simp only [ih]
    -- what is seen of the looks comes in front of what is seen later
    simp [undergo, Sight.eventsOf, Sight.of, PracticeEvents.followedBy, PracticeEvents.none]

/-- **Steps are rows of happenings**: a step leads to the same session, and brings the same events
    about, as its happenings one by one. -/
theorem step_eq_live (p : Practice) (s : PracticeStep) :
    p.step s = (p.after s.happenings, Sight.eventsOf (p.seen s.happenings)) := by
  have hact : ∀ s, ((p.act s).1.look.1, (p.act s).2.followedBy (p.act s).1.look.2) =
      (p.after [.act s, .lookAtTicks, .lookAtTurn],
        Sight.eventsOf (p.seen [.act s, .lookAtTicks, .lookAtTurn])) := by
    intro s
    rw [look_eq]
    rfl
  cases s with
  | advance distance times => exact jumps_eq distance times
  | intent i => exact hact (.intent i)
  | showPage => exact hact .showPage
  | shutdown => exact hact .shutdown
  | forgetScheduled => exact hact .forgetScheduled
  | load pager => exact hact (.load pager)
  | nothing => exact hact .nothing

def afterSteps (p : Practice) (steps : List PracticeStep) : Practice :=
  steps.foldl (fun p s => (p.step s).1) p

end Practice

end Rehearsal
