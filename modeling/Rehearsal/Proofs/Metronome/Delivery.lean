import Rehearsal.Proofs.Metronome.Fates
import Rehearsal.Proofs.Metronome.TickLaw

/-! # How ticks are delivered

  A listener reads the waiting ticks after each operation, or holds back and leaves them waiting.
  The run of a metronome with such a listener is a row of queue events, and the fates of its ticks
  follow from these events alone.

  What is held back or lost makes no difference to the tick loop: its ticks, its place in the bar
  and its due times come from the operations only (`sameLoop_run`). So a change of the tempo shows
  in every tick that is given after it, and only the few ticks that wait when it comes are older.

  Main statement: `plays_obey_deliveryLaw`.
-/

namespace Rehearsal

/-- An operation, and whether the listener holds back after it. -/
structure HeldOp where
  op : MetronomeOp
  /-- Whether the ticks that wait after it are left unread. -/
  held : Bool
  deriving DecidableEq, Repr

/-- The operation stores a tempo or a subdivision. -/
def MetronomeOp.SetsTempo : MetronomeOp → Prop
  | .setBpm _ | .increase _ | .decrease _ | .nameSubdivision _ => True
  | _ => False

/-- The operation as the tick loop knows it, to which it is all the same whether somebody
    listens. -/
def MetronomeOp.heard : MetronomeOp → MetronomeOp
  | .deafen => .nothing
  | op => op

/-- What an operation itself does to the queue. -/
def MetronomeOp.onQueue : MetronomeOp → List QueueEvent
  | .deafen => [.deafened]
  | _ => []

/-- What the listener does to the queue afterwards. -/
def HeldOp.onQueue (h : HeldOp) : List QueueEvent := if h.held then [] else [.read]

namespace MetronomeRun

/-! ## Runs with a listener -/

/-- One operation, after which the waiting ticks are read unless the listener holds back. -/
def play (r : MetronomeRun) (h : HeldOp) : MetronomeRun × List Tick :=
  if h.held then ((r.step h.op).1, []) else (r.step h.op).1.drain

/-- Some operations, one after the other: the run after them and all ticks that were read. -/
def playAll (r : MetronomeRun) : List HeldOp → MetronomeRun × List Tick
  | [] => (r, [])
  | h :: hs =>
    let (r, first) := r.play h
    let (r, rest) := playAll r hs
    (r, first ++ rest)

/-- What an operation does to the queue, in the order in which it happens. -/
def eventsOf (r : MetronomeRun) (h : HeldOp) : List QueueEvent :=
  h.op.onQueue ++ (r.step h.op).2.2.map .given ++ h.onQueue

/-- What some operations do to the queue. -/
def events (r : MetronomeRun) : List HeldOp → List QueueEvent
  | [] => []
  | h :: hs => r.eventsOf h ++ events (r.play h).1 hs

variable {r s : MetronomeRun} {op : MetronomeOp}

theorem playAll_append (r : MetronomeRun) (front back : List HeldOp) :
    r.playAll (front ++ back) = (((r.playAll front).1.playAll back).1,
      (r.playAll front).2 ++ ((r.playAll front).1.playAll back).2) := by
  induction front generalizing r with
  | nil => rfl
  | cons h front ih => simp [playAll, ih]

/-! ## The events tell what is read and what waits -/

theorem queue_look (r : MetronomeRun) :
    r.look.1.queue = r.queue.after (r.look.2.map .given) := by
  unfold look
  cases htick : (r.metronome.look r.clock).2 with
  | none => simp [htick, TickQueue.offer?]
  | some tick => simp [htick, TickQueue.offer?, TickQueue.undergo]

theorem queue_jumps (r : MetronomeRun) (distance : Duration) (n : Nat) :
    (r.jumps distance n).1.queue = r.queue.after ((r.jumps distance n).2.map .given) := by
  induction n generalizing r with
  | zero => rfl
  | succ n ih =>
    let next : MetronomeRun := { r with clock := r.clock + distance }
    show (next.look.1.jumps distance n).1.queue =
      next.queue.after ((next.look.2 ++ (next.look.1.jumps distance n).2).map .given)
    rw [ih, queue_look, List.map_append, TickQueue.after_append]

/-- Going away comes before the look, so even the tick of that look is lost. -/
theorem queue_step (r : MetronomeRun) (op : MetronomeOp) :
    (r.step op).1.queue = r.queue.after (op.onQueue ++ (r.step op).2.2.map .given) := by
  rcases op.advance_or_not with ⟨distance, times, rfl⟩ | hnot
  · exact queue_jumps r distance times
  · have hact : (r.act op).1.queue = r.queue.after op.onQueue := by cases op <;> rfl
    rw [step_of_not_advance hnot, TickQueue.after_append, ← hact]
    exact queue_look _

theorem reads_before (q : TickQueue) (op : MetronomeOp) (given : List Tick) :
    q.reads (op.onQueue ++ given.map .given) = [] := by
  have hop : q.reads op.onQueue = [] := by cases op <;> rfl
  have hgiven : ∀ q : TickQueue, q.reads (given.map .given) = [] := by
    induction given with
    | nil => exact fun q => rfl
    | cons tick given ih => exact fun q => ih _
  rw [TickQueue.reads_append, hop, hgiven]
  rfl

theorem reads_eventsOf (r : MetronomeRun) (h : HeldOp) :
    (r.play h).1.queue = r.queue.after (r.eventsOf h) ∧
      (r.play h).2 = r.queue.reads (r.eventsOf h) := by
  unfold play eventsOf
  rw [TickQueue.after_append, TickQueue.reads_append, reads_before, ← queue_step]
  unfold HeldOp.onQueue
  by_cases hheld : h.held = true
  · rw [if_pos hheld, if_pos hheld]
    exact ⟨rfl, rfl⟩
  · rw [if_neg hheld, if_neg hheld]
    exact ⟨rfl, by simp [TickQueue.readAt, drain]⟩

/-- The events of a run lead to the queue of the run, and let the same ticks be read. -/
theorem reads_events (r : MetronomeRun) (hs : List HeldOp) :
    (r.playAll hs).1.queue = r.queue.after (r.events hs) ∧
      (r.playAll hs).2 = r.queue.reads (r.events hs) := by
  induction hs generalizing r with
  | nil => exact ⟨rfl, rfl⟩
  | cons h hs ih =>
    obtain ⟨hqueue, hreads⟩ := ih (r.play h).1
    obtain ⟨hqueue', hreads'⟩ := reads_eventsOf r h
    rw [events, TickQueue.after_append, TickQueue.reads_append, ← hqueue', ← hreads', ← hqueue,
      ← hreads]
    exact ⟨rfl, rfl⟩

/-! ## The tick loop does not notice the listener -/

/-- It is the same time, and the two metronomes stand at the same place. -/
def SameLoop (r s : MetronomeRun) : Prop := r.clock = s.clock ∧ r.metronome = s.metronome

theorem sameLoop_look (h : r.SameLoop s) : r.look.1.SameLoop s.look.1 ∧ r.look.2 = s.look.2 := by
  unfold look SameLoop
  rw [h.1, h.2]
  exact ⟨⟨rfl, rfl⟩, rfl⟩

theorem sameLoop_jumps (h : r.SameLoop s) (distance : Duration) (n : Nat) :
    (r.jumps distance n).1.SameLoop (s.jumps distance n).1 ∧
      (r.jumps distance n).2 = (s.jumps distance n).2 := by
  induction n generalizing r s with
  | zero => exact ⟨h, rfl⟩
  | succ n ih =>
    obtain ⟨hlook, hfirst⟩ := sameLoop_look (r := { r with clock := r.clock + distance })
      (s := { s with clock := s.clock + distance }) ⟨congrArg (· + distance) h.1, h.2⟩
    obtain ⟨hrest, hlater⟩ := ih hlook
    exact ⟨hrest, congrArg₂ (· ++ ·) hfirst hlater⟩

/-- Operations that differ at most in whether somebody listens. -/
theorem sameLoop_step {op' : MetronomeOp} (h : r.SameLoop s) (hop : op.heard = op'.heard) :
    (r.step op).1.SameLoop (s.step op').1 ∧ (r.step op).2.2 = (s.step op').2.2 := by
  rcases op.advance_or_not with ⟨distance, times, rfl⟩ | hnot
  · cases op' with
    | advance distance' times' =>
      cases hop
      exact sameLoop_jumps h distance times
    | _ => cases hop
  · have hnot' : ∀ distance times, op' ≠ .advance distance times := by
      intro distance times h
      subst h
      cases op with
      | advance distance times => exact hnot distance times rfl
      | _ => cases hop
    -- the metronome is operated in the same way, and then looked at at the same time
    have hoperate : ∀ (m : Metronome) (op : MetronomeOp), m.operate op.heard = m.operate op := by
      intro m op
      cases op <;> rfl
    have hact : (r.act op).1.SameLoop (s.act op').1 := by
      refine ⟨?_, ?_⟩
      · rw [act_clock, act_clock]
        exact h.1
      · rw [act_metronome, act_metronome, ← hoperate, hop, hoperate, h.2]
    rw [step_of_not_advance hnot, step_of_not_advance hnot']
    exact sameLoop_look hact

/-- A run with a listener gives the ticks, and leads to the metronome, of any run of the same
    operations. -/
theorem sameLoop_run (h : r.SameLoop s) {hs : List HeldOp} {ops : List MetronomeOp}
    (hops : ops.map MetronomeOp.heard = hs.map fun k => k.op.heard) :
    (r.playAll hs).1.SameLoop (s.run ops).1 ∧ QueueEvent.ticks (r.events hs) = (s.run ops).2 := by
  induction hs generalizing r s ops with
  | nil =>
    obtain rfl := List.map_eq_nil_iff.1 hops
    exact ⟨h, rfl⟩
  | cons k hs ih =>
    cases ops with
    | nil => cases hops
    | cons op ops =>
      obtain ⟨hop, hrest⟩ := List.cons.inj hops
      obtain ⟨hstep, hticks⟩ := sameLoop_step h hop.symm
      -- reading touches neither the clock nor the metronome
      have hplay : (r.play k).1.SameLoop (s.step op).1 := by
        unfold play
        split
        · exact hstep
        · exact hstep
      have hevents : QueueEvent.ticks (r.eventsOf k) = (r.step k.op).2.2 := by
        have hop : QueueEvent.ticks k.op.onQueue = [] := by cases k.op <;> rfl
        have hread : QueueEvent.ticks k.onQueue = [] := by
          unfold HeldOp.onQueue
          split <;> rfl
        unfold eventsOf
        rw [QueueEvent.ticks_append, QueueEvent.ticks_append, QueueEvent.ticks_map_given, hop,
          hread, List.append_nil, List.nil_append]
      obtain ⟨hlast, hlater⟩ := ih hplay hrest
      refine ⟨hlast, ?_⟩
      show QueueEvent.ticks (r.eventsOf k ++ (r.play k).1.events hs) =
        (s.step op).2.2 ++ ((s.step op).1.run ops).2
      rw [QueueEvent.ticks_append, hevents, hticks, hlater]

/-! ## The tempo of the ticks -/

theorem tempo_operate (h : ¬ op.SetsTempo) (m : Metronome) : (m.operate op).tempo = m.tempo := by
  cases op with
  | setBpm bpm => exact absurd trivial h
  | increase n => exact absurd trivial h
  | decrease n => exact absurd trivial h
  | nameSubdivision name => exact absurd trivial h
  | start => exact m.start_frame.1
  | _ => rfl

theorem tempo_jumpLooks (op : MetronomeOp) (distance : Duration) (n : Nat) :
    (∀ l ∈ r.jumpLooks op distance n, l.metronome.tempo = r.metronome.tempo) ∧
      (r.jumps distance n).1.metronome.tempo = r.metronome.tempo := by
  induction n generalizing r with
  | zero => exact ⟨by simp [jumpLooks], rfl⟩
  | succ n ih =>
    -- one jump, and then the look, which leaves the tempo
    let next : MetronomeRun := { r with clock := r.clock + distance }
    have hframe : next.look.1.metronome.tempo = r.metronome.tempo :=
      (next.metronome.look_frame next.clock).1
    obtain ⟨hlooks, hlast⟩ := ih (r := next.look.1)
    refine ⟨?_, hlast.trans hframe⟩
    intro l hl
    rcases List.mem_cons.1 hl with h | h
    · rw [h]
    · exact (hlooks l h).trans hframe

/-- All looks of an operation find the tempo that it stores, and so does the next operation. -/
theorem tempo_step (r : MetronomeRun) (op : MetronomeOp) :
    (∀ l ∈ r.stepLooks op, l.metronome.tempo = (r.metronome.operate op).tempo) ∧
      (r.step op).1.metronome.tempo = (r.metronome.operate op).tempo := by
  rcases op.advance_or_not with ⟨distance, times, rfl⟩ | hnot
  · exact tempo_jumpLooks _ distance times
  · rw [stepLooks_of_not_advance hnot, step_of_not_advance hnot]
    refine ⟨?_, ?_⟩
    · intro l hl
      rw [List.mem_singleton.1 hl]
    · rw [← act_metronome]
      exact ((r.act op).1.metronome.look_frame (r.act op).1.clock).1

theorem carries_step (r : MetronomeRun) (op : MetronomeOp) :
    ∀ t ∈ (r.step op).2.2, t.bpm = (r.metronome.operate op).tempo.bpm ∧
      t.subdivision = (r.metronome.operate op).tempo.subdivision := by
  intro t ht
  rw [ticks_step] at ht
  obtain ⟨l, hl, htick⟩ := List.mem_filterMap.1 ht
  have hfits := Look.fits_tick htick
  rw [hfits.bpm, hfits.subdivision, (r.tempo_step op).1 l hl]
  exact ⟨rfl, rfl⟩

/-- As long as no tempo is stored, all ticks carry the one that is. -/
theorem carries_run {tempo : Tempo} (h : r.metronome.tempo = tempo) {ops : List MetronomeOp}
    (hops : ∀ op ∈ ops, ¬ op.SetsTempo) :
    ∀ t ∈ (r.run ops).2, t.bpm = tempo.bpm ∧ t.subdivision = tempo.subdivision := by
  induction ops generalizing r with
  | nil => simp [run]
  | cons op ops ih =>
    intro t ht
    -- the operation leaves the tempo, so the ticks after it carry it
    have hstored : (r.metronome.operate op).tempo = tempo :=
      (tempo_operate (hops op List.mem_cons_self) _).trans h
    have ht : t ∈ (r.step op).2.2 ++ ((r.step op).1.run ops).2 := ht
    rcases List.mem_append.1 ht with hfirst | hlater
    · rw [← hstored]
      exact carries_step r op t hfirst
    · refine ih ((r.tempo_step op).2.trans hstored) ?_ t hlater
      exact fun k hk => hops k (List.mem_cons_of_mem op hk)

end MetronomeRun

/-! ## The law -/

/-- The law that a run with a listener obeys. -/
structure DeliveryLaw (r : MetronomeRun) (hs : List HeldOp) : Prop where
  /-- Every tick that is given has a fate. -/
  given : (r.queue.fates (r.events hs)).map Prod.fst = QueueEvent.ticks (r.events hs)
  /-- What is read are the ticks with that fate, in the order in which they were given. -/
  read : (r.playAll hs).2 = Fate.read.among (r.queue.fates (r.events hs))
  /-- No tick is read twice or out of its turn. -/
  in_order : (r.playAll hs).2.Sublist (QueueEvent.ticks (r.events hs))
  /-- What waits in the end are the ticks with that fate. -/
  waiting : (r.playAll hs).1.queue.waiting = Fate.waiting.among (r.queue.fates (r.events hs))
  /-- A tick is lost exactly if as many ticks as can wait are waiting when it is given, or if the
      listener goes away before it is read. A tick that is not lost is read as soon as somebody
      reads. -/
  fate : ∀ before tick later, r.events hs = before ++ .given tick :: later →
    ∃ front fate back, r.queue.fates (r.events hs) = front ++ (tick, fate) :: back ∧
      front.map Prod.fst = QueueEvent.ticks before ∧
      (fate = .lost ↔ 4 ≤ (r.queue.after before).waiting.length ∨
        TickQueue.LeftUnread before later) ∧
      (fate = .waiting ↔ fate ≠ .lost ∧ .read ∉ later)
  /-- The events lead to the queue of the run. -/
  queue : (r.playAll hs).1.queue = r.queue.after (r.events hs)
  /-- At no time do more than four ticks wait. -/
  bounded : ∀ before, before <+: r.events hs → (r.queue.after before).waiting.length ≤ 4
  /-- The ticks that are given, and the metronome with its place in the bar and its due time, are
      those of any run of the same operations, whatever waits in its queue at first, whether or not
      somebody listens, and though no tick is ever read in it. -/
  undisturbed : ∀ (q : TickQueue) (ops : List MetronomeOp),
    ops.map MetronomeOp.heard = hs.map (fun k => k.op.heard) →
      QueueEvent.ticks (r.events hs) = (({ r with queue := q } : MetronomeRun).run ops).2 ∧
        (r.playAll hs).1.metronome = (({ r with queue := q } : MetronomeRun).run ops).1.metronome
  /-- Cut the run in two. At most four of the ticks that are read later were given earlier, and
      they are read before all those that were given later. -/
  backlog : ∀ earlier later, hs = earlier ++ later →
    ∃ stale fresh, (r.playAll hs).2 = (r.playAll earlier).2 ++ (stale ++ fresh) ∧
      stale.length ≤ 4 ∧ stale.Sublist (QueueEvent.ticks (r.events earlier)) ∧
      fresh.Sublist (QueueEvent.ticks ((r.playAll earlier).1.events later))
  /-- From an operation that stores a tempo to the next one, every tick that is given carries the
      tempo that was stored. -/
  current : ∀ earlier change between rest, hs = earlier ++ change :: (between ++ rest) →
    change.op.SetsTempo → (∀ k ∈ between, ¬ k.op.SetsTempo) →
      ∀ t ∈ QueueEvent.ticks ((r.playAll earlier).1.events (change :: between)),
        t.bpm = ((r.playAll earlier).1.metronome.operate change.op).tempo.bpm ∧
          t.subdivision = ((r.playAll earlier).1.metronome.operate change.op).tempo.subdivision

namespace DeliveryLaw

variable {r : MetronomeRun} {hs earlier between rest : List HeldOp} {held : Bool}

/-- After the beats per minute are set, and until the next change, ticks carry the number that was
    asked for, brought into range, and the subdivision that was stored before. -/
theorem carries_setBpm (law : DeliveryLaw r hs) {bpm : Int}
    (hsplit : hs = earlier ++ ⟨.setBpm bpm, held⟩ :: (between ++ rest))
    (hbetween : ∀ k ∈ between, ¬ k.op.SetsTempo) :
    ∀ t ∈ QueueEvent.ticks ((r.playAll earlier).1.events (⟨.setBpm bpm, held⟩ :: between)),
      t.bpm = nearestBpm bpm ∧
        t.subdivision = (r.playAll earlier).1.metronome.tempo.subdivision :=
  law.current earlier ⟨.setBpm bpm, held⟩ between rest hsplit trivial hbetween

/-- After a subdivision is named that there is, and until the next change, ticks carry it, and the
    beats per minute that were stored before. -/
theorem carries_nameSubdivision (law : DeliveryLaw r hs) {name : List Char} {s : Subdivision}
    (hname : Subdivision.ofName? name = some s)
    (hsplit : hs = earlier ++ ⟨.nameSubdivision name, held⟩ :: (between ++ rest))
    (hbetween : ∀ k ∈ between, ¬ k.op.SetsTempo) :
    ∀ t ∈ QueueEvent.ticks
        ((r.playAll earlier).1.events (⟨.nameSubdivision name, held⟩ :: between)),
      t.bpm = (r.playAll earlier).1.metronome.tempo.bpm ∧ t.subdivision = s := by
  have hstored (m : Metronome) : (m.operate (.nameSubdivision name)).tempo =
      m.tempo.setSubdivision s := by
    show (m.nameSubdivision name).1.tempo = _
    unfold Metronome.nameSubdivision
    rw [hname]
    rfl
  have hcurrent :=
    law.current earlier ⟨.nameSubdivision name, held⟩ between rest hsplit trivial hbetween
  rwa [hstored] at hcurrent

end DeliveryLaw

namespace MetronomeRun

variable {r : MetronomeRun} {hs : List HeldOp}

/-- The ticks that are read from now on: those that wait now, unless they are lost, and some of
    those that are given from now on. -/
theorem reads_from (h : r.queue.waiting.length ≤ TickQueue.capacity) (hs : List HeldOp) :
    ∃ stale fresh, (r.playAll hs).2 = stale ++ fresh ∧ stale.length ≤ TickQueue.capacity ∧
      stale.Sublist r.queue.waiting ∧ fresh.Sublist (QueueEvent.ticks (r.events hs)) := by
  refine ⟨_, _, (reads_events r hs).2.trans (r.queue.reads_eq (r.events hs)), ?_, ?_, ?_⟩
  · split
    · exact h
    · exact Nat.zero_le _
  · split
    · exact List.Sublist.refl _
    · exact List.nil_sublist _
  · rw [← TickQueue.fates_ticks r.queue]
    exact Fate.among_sublist .read _

/-- The ticks given from a change of the tempo to the next one. -/
theorem carries_change {change : HeldOp} {between : List HeldOp}
    (hbetween : ∀ k ∈ between, ¬ k.op.SetsTempo) :
    ∀ t ∈ QueueEvent.ticks (r.events (change :: between)),
      t.bpm = (r.metronome.operate change.op).tempo.bpm ∧
        t.subdivision = (r.metronome.operate change.op).tempo.subdivision := by
  intro t ht
  -- the run without a listener gives the same ticks
  have hops : ((change :: between).map (·.op)).map MetronomeOp.heard =
      (change :: between).map fun k => k.op.heard := by simp
  have hself : SameLoop r r := ⟨rfl, rfl⟩
  rw [(sameLoop_run hself hops).2] at ht
  have ht : t ∈ (r.step change.op).2.2 ++ ((r.step change.op).1.run (between.map (·.op))).2 := ht
  rcases List.mem_append.1 ht with hfirst | hlater
  · exact carries_step r change.op t hfirst
  · refine carries_run (r.tempo_step change.op).2 ?_ t hlater
    intro op hop
    obtain ⟨k, hk, rfl⟩ := List.mem_map.1 hop
    exact hbetween k hk

/-- A run from an empty queue obeys the law. -/
theorem deliveryLaw (hempty : r.queue = .empty) (hs : List HeldOp) : DeliveryLaw r hs := by
  obtain ⟨hqueue, hreads⟩ := reads_events r hs
  have hwaiting : r.queue.waiting = [] := by rw [hempty]; rfl
  have hbound : ∀ events, (r.queue.after events).waiting.length ≤ TickQueue.capacity := by
    intro events
    apply TickQueue.length_after_le
    rw [hwaiting]
    exact Nat.zero_le _
  have hread : (r.playAll hs).2 = Fate.read.among (r.queue.fates (r.events hs)) := by
    rw [hreads, TickQueue.reads_eq, hwaiting]
    simp
  have hin_order : (r.playAll hs).2.Sublist (QueueEvent.ticks (r.events hs)) := by
    rw [hread, ← TickQueue.fates_ticks r.queue]
    exact Fate.among_sublist .read _
  have hwaits : ∀ hs, (r.playAll hs).1.queue.waiting =
      Fate.waiting.among (r.queue.fates (r.events hs)) := by
    intro hs
    rw [(reads_events r hs).1, TickQueue.waiting_after, hwaiting]
    simp
  refine ⟨TickQueue.fates_ticks _ _, hread, hin_order, hwaits hs, ?_, hqueue, ?_, ?_, ?_, ?_⟩
  · intro before tick later hsplit
    obtain ⟨front, back, hfates, hfront⟩ := r.queue.fates_split before tick later
    have hconnected : r.queue.connected = true := by rw [hempty]; rfl
    rw [hsplit]
    exact ⟨front, _, back, hfates, hfront, TickQueue.fateOf_eq_lost_iff hconnected,
      TickQueue.fateOf_eq_waiting_iff⟩
  · exact fun before _ => hbound before
  · intro q ops hops
    obtain ⟨hsame, hticks⟩ := sameLoop_run (r := r) (s := { r with queue := q }) ⟨rfl, rfl⟩ hops
    exact ⟨hticks, hsame.2⟩
  · intro earlier later hsplit
    have hnow : (r.playAll earlier).1.queue.waiting.length ≤ TickQueue.capacity := by
      rw [(reads_events r earlier).1]
      exact hbound _
    obtain ⟨stale, fresh, hlater, hlength, hstale, hfresh⟩ := reads_from hnow later
    refine ⟨stale, fresh, ?_, hlength, hstale.trans ?_, hfresh⟩
    · rw [hsplit, playAll_append, hlater]
    -- what waits at the cut was given before it
    · rw [hwaits earlier, ← TickQueue.fates_ticks r.queue]
      exact Fate.among_sublist .waiting _
  · intro earlier change between rest _ _ hbetween
    exact carries_change hbetween

/-- **Delivery law**: take a new metronome at any tempo, do anything to it, and read the waiting
    ticks after each operation or hold back. The ticks that are read are those that the loop gave,
    in order and without repetition, less the ones that found four others waiting or were left
    unread by a listener that went away. No more than four ever wait, and what is lost disturbs
    nothing else; so after a change of the tempo at most four ticks are older than the change. -/
theorem plays_obey_deliveryLaw (bpm : Int) (subdivision : Subdivision) (hs : List HeldOp) :
    DeliveryLaw (atTempo (Tempo.of bpm subdivision)) hs :=
  deliveryLaw rfl hs

end MetronomeRun

end Rehearsal
