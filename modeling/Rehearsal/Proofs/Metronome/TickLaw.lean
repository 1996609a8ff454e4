import Rehearsal.Proofs.Metronome.Looks

/-! # The law of the ticks

  Between two ticks the loop waits for a time that it fixed when it gave the first of them.
  `Awaits` is the invariant of this wait: the place in the bar and the due time come from the
  last tick, whatever happens to the tempo meanwhile. An operation that neither stops nor shuts
  down keeps it, and so does a look that gives no tick; the look that gives the next tick is the
  first one that comes late enough.

  Main statement: `tickLaw`.
-/

namespace Rehearsal

/-! ## One look -/

namespace Metronome

variable {m : Metronome} {now : Instant} {op : MetronomeOp}

theorem look_of_ended (h : m.ended = true) : m.look now = (m, none) := by
  unfold look
  rw [if_pos h]

theorem look_of_stopped (h : m.running = false) : (m.look now).2 = none := by
  unfold look
  split
  · rfl
  · rw [h]
    rfl

/-- A look at a running metronome gives a tick exactly if none is waited for or the one that is
    waited for is due. -/
theorem look_of_running (hended : m.ended = false) (hrunning : m.running = true) :
    m.look now =
      if now < m.noticed.nextDue.getD now then
        ({ m with loop := { m.noticed with nextDue := some (m.noticed.nextDue.getD now) } }, none)
      else
        ({ m with loop := ⟨(tickAfter m.tempo m.noticed.count now).count,
            some (now + m.tempo.interval), m.noticed.seenStarts⟩ },
          some (tickAfter m.tempo m.noticed.count now)) := by
  unfold look
  rw [hended, hrunning]
  rfl

theorem running_of_tick {tick : Tick} (h : (m.look now).2 = some tick) :
    m.ended = false ∧ m.running = true := by
  constructor
  · rw [← Bool.not_eq_true]
    intro hended
    rw [look_of_ended hended] at h
    cases h
  · rw [← Bool.not_eq_false]
    intro hrunning
    rw [look_of_stopped hrunning] at h
    cases h

theorem noticed_seenStarts (m : Metronome) : m.noticed.seenStarts = m.starts := by
  unfold noticed
  split
  · assumption
  · rfl

/-- What a look leaves, apart from the loop, is what it found. -/
theorem look_frame (m : Metronome) (now : Instant) :
    (m.look now).1.tempo = m.tempo ∧ (m.look now).1.starts = m.starts ∧
      (m.look now).1.running = m.running ∧ (m.look now).1.ended = m.ended := by
  unfold look
  split
  · exact ⟨rfl, rfl, rfl, rfl⟩
  · split
    · exact ⟨rfl, rfl, rfl, rfl⟩
    · dsimp only
      split
      · exact ⟨rfl, rfl, rfl, rfl⟩
      · exact ⟨rfl, rfl, rfl, rfl⟩

theorem start_frame (m : Metronome) :
    m.start.1.tempo = m.tempo ∧ m.start.1.loop = m.loop ∧ m.start.1.ended = m.ended := by
  unfold start
  split
  · exact ⟨rfl, rfl, rfl⟩
  · exact ⟨rfl, rfl, rfl⟩

/-! ## What holds at all times -/

/-- The interval belongs to the tempo, and no start was noticed that did not happen. -/
structure Sound (m : Metronome) : Prop where
  /-- The stored interval is the one that the tempo implies. -/
  interval : m.tempo.interval = tickSpacing m.tempo.bpm m.tempo.subdivision
  seen_le : m.loop.seenStarts ≤ m.starts

theorem sound_atTempo (bpm : Int) (s : Subdivision) : Sound (atTempo (Tempo.of bpm s)) :=
  ⟨rfl, Nat.le_refl 0⟩

theorem Sound.operate (sound : Sound m) : Sound (m.operate op) := by
  cases op with
  | start =>
    show Sound m.start.1
    unfold start
    split
    · exact sound
    · exact ⟨sound.interval, Nat.le_succ_of_le sound.seen_le⟩
  | nameSubdivision name =>
    show Sound (m.nameSubdivision name).1
    unfold nameSubdivision
    split
    · exact ⟨rfl, sound.seen_le⟩
    · exact sound
  | setBpm bpm => exact ⟨rfl, sound.seen_le⟩
  | increase n => exact ⟨rfl, sound.seen_le⟩
  | decrease n => exact ⟨rfl, sound.seen_le⟩
  -- the tempo and the loop stay as they are
  | stop => exact ⟨sound.interval, sound.seen_le⟩
  | shutdown => exact ⟨sound.interval, sound.seen_le⟩
  | advance distance times => exact sound
  | deafen => exact sound
  | nothing => exact sound

theorem Sound.look (sound : Sound m) (now : Instant) : Sound (m.look now).1 := by
  obtain ⟨htempo, hstarts, -, -⟩ := m.look_frame now
  refine ⟨by rw [htempo]; exact sound.interval, ?_⟩
  rw [hstarts]
  unfold Metronome.look
  -- whichever way the look goes, the loop has seen the last start or what it had seen before
  split
  · exact sound.seen_le
  · split
    · exact sound.seen_le
    · dsimp only
      split
      · exact Nat.le_of_eq m.noticed_seenStarts
      · exact Nat.le_of_eq m.noticed_seenStarts

/-- Only a shutdown ends the tick loop, and it does so for good. -/
theorem ended_operate (m : Metronome) (op : MetronomeOp) :
    (m.operate op).ended = true ↔ m.ended = true ∨ op = .shutdown := by
  cases op with
  | start =>
    show m.start.1.ended = true ↔ _
    unfold start
    split <;> simp
  | nameSubdivision name =>
    show (m.nameSubdivision name).1.ended = true ↔ _
    unfold nameSubdivision
    split <;> simp [setSubdivision]
  | _ => simp [operate, stop, setBpm, increase, decrease, shutdown]

/-- Only a start sets the transport running. -/
theorem stopped_operate (hrunning : m.running = false) (hop : op ≠ .start) :
    (m.operate op).running = false := by
  cases op with
  | start => exact absurd rfl hop
  | nameSubdivision name =>
    show (m.nameSubdivision name).1.running = false
    unfold nameSubdivision
    split
    · exact hrunning
    · exact hrunning
  | stop => rfl
  | shutdown => rfl
  | _ => exact hrunning

/-- A look right after a start of a stopped transport begins a bar. -/
theorem look_start (sound : Sound m) (hended : m.ended = false) (hrunning : m.running = false) :
    ((m.operate .start).look now).2 = some (tickAfter m.tempo 0 now) := by
  have hstart : m.operate .start = { m with running := true, starts := m.starts + 1 } := by
    show m.start.1 = _
    unfold start
    rw [hrunning]
    rfl
  -- the loop has not noticed the new start, so it forgets the bar and the due time
  have hnoticed : (m.operate .start).noticed = ⟨0, none, m.starts + 1⟩ := by
    rw [hstart]
    exact if_neg (Nat.ne_of_lt (Nat.lt_succ_of_le sound.seen_le))
  have hdue : ¬ now < (m.operate .start).noticed.nextDue.getD now := by
    rw [hnoticed]
    exact Nat.lt_irrefl now
  rw [look_of_running (by rw [hstart]; exact hended) (by rw [hstart]), if_neg hdue, hnoticed,
    hstart]

/-! ## The wait for the next tick -/

/-- The loop waits for the tick after `a`. -/
structure Awaits (a : Tick) (m : Metronome) : Prop where
  running : m.running = true
  ended : m.ended = false
  seen : m.loop.seenStarts = m.starts
  /-- The place in the bar is that of the tick. -/
  count : m.loop.count = a.count
  /-- The next tick is due one interval after the tick, at the tempo of the tick. -/
  due : m.loop.nextDue = some (a.instant + tickSpacing a.bpm a.subdivision)

namespace Awaits

variable {a : Tick}

/-- Changes of the tempo leave the wait alone. -/
theorem operate (w : Awaits a m) (hstop : op ≠ .stop) (hshutdown : op ≠ .shutdown) :
    Awaits a (m.operate op) := by
  cases op with
  | stop => exact absurd rfl hstop
  | shutdown => exact absurd rfl hshutdown
  | start =>
    -- the transport is running already, so this is no new start
    show Awaits a m.start.1
    unfold start
    rw [if_pos w.running]
    exact w
  | nameSubdivision name =>
    show Awaits a (m.nameSubdivision name).1
    unfold nameSubdivision
    split
    · exact ⟨w.running, w.ended, w.seen, w.count, w.due⟩
    · exact w
  | _ => exact ⟨w.running, w.ended, w.seen, w.count, w.due⟩

theorem noticed (w : Awaits a m) : m.noticed = m.loop := if_pos w.seen

theorem look_eq (w : Awaits a m) (now : Instant) :
    (m.look now).2 =
      if a.instant + tickSpacing a.bpm a.subdivision ≤ now then some (tickAfter m.tempo a.count now)
      else none := by
  rw [look_of_running w.ended w.running, w.noticed, w.due, Option.getD_some, w.count]
  by_cases h : a.instant + tickSpacing a.bpm a.subdivision ≤ now
  · rw [if_neg (Nat.not_lt.2 h), if_pos h]
  · rw [if_pos (Nat.lt_of_not_le h), if_neg h]

theorem look (w : Awaits a m) (now : Instant) (h : (m.look now).2 = none) :
    Awaits a (m.look now).1 := by
  have hdue : now < m.noticed.nextDue.getD now := by
    by_contra hdue
    rw [look_of_running w.ended w.running, if_neg hdue] at h
    cases h
  rw [look_of_running w.ended w.running, if_pos hdue, w.noticed]
  exact ⟨w.running, w.ended, w.seen, w.count, by rw [w.due]; rfl⟩

end Awaits

/-- After a tick the loop waits for the next one. -/
theorem awaits_of_tick (sound : Sound m) {a : Tick} (h : (m.look now).2 = some a) :
    Awaits a (m.look now).1 := by
  obtain ⟨hended, hrunning⟩ := running_of_tick h
  have hdue : ¬ now < m.noticed.nextDue.getD now := by
    intro hdue
    rw [look_of_running hended hrunning, if_pos hdue] at h
    cases h
  -- the due time is fixed here, from the interval that is stored now
  rw [look_of_running hended hrunning, if_neg hdue] at h ⊢
  obtain rfl := Option.some.inj h
  refine ⟨hrunning, hended, m.noticed_seenStarts, rfl, ?_⟩
  show some (now + m.tempo.interval) = _
  rw [sound.interval]
  rfl

end Metronome

/-! ## Well-formed ticks -/

/-- The tick belongs to the time and to the tempo at which it was given. -/
structure Tick.Fits (t : Tick) (tempo : Tempo) (now : Instant) : Prop where
  /-- It was given at that time. -/
  instant : t.instant = now
  /-- It carries the stored beats per minute. -/
  bpm : t.bpm = tempo.bpm
  /-- It carries the stored subdivision. -/
  subdivision : t.subdivision = tempo.subdivision
  /-- Bars are counted from one. -/
  count_pos : 1 ≤ t.count
  /-- The place lies in the bar. -/
  count_le : t.count ≤ 4 * t.subdivision.multiplier
  /-- Every beat begins with a tick, and that is the tick on the beat. -/
  onBeat : t.onBeat = true ↔ (t.count - 1) % t.subdivision.multiplier = 0

theorem Metronome.fits_tickAfter (tempo : Tempo) (count : Nat) (now : Instant) :
    (tickAfter tempo count now).Fits tempo now := by
  have hbar : 0 < tempo.ticksPerBar := Nat.mul_pos (by decide) tempo.subdivision.multiplier_pos
  refine ⟨rfl, rfl, rfl, Nat.succ_pos _, ?_, beq_iff_eq⟩
  exact Nat.succ_le_of_lt (Nat.mod_lt count hbar)

/-! ## Runs -/

theorem Look.running_left (l : Look) : l.left.running = l.metronome.running :=
  (l.metronome.look_frame l.clock).2.2.1

theorem Look.ended_left (l : Look) : l.left.ended = l.metronome.ended :=
  (l.metronome.look_frame l.clock).2.2.2

namespace Chained

variable {m : Metronome} {l : Look} {front back : List Look}

theorem sound_leave (chained : Chained m front) (sound : m.Sound) : (leave m front).Sound :=
  chained.preserves (fun _ _ h => h.operate) (fun _ now h => h.look now) sound

theorem ended_leave (chained : Chained m front) :
    (leave m front).ended = true ↔ m.ended = true ∨ ∃ k ∈ front, k.op = .shutdown := by
  induction front generalizing m with
  | nil => simp [leave]
  | cons l front ih =>
    obtain ⟨-, hop, hrest⟩ := chained
    rw [leave, ih hrest, l.ended_left, hop, Metronome.ended_operate, List.exists_mem_cons_iff,
      or_assoc]

theorem stopped_leave (chained : Chained m front) (hrunning : m.running = false)
    (hop : ∀ k ∈ front, k.op ≠ .start) : (leave m front).running = false := by
  induction front generalizing m with
  | nil => exact hrunning
  | cons l front ih =>
    obtain ⟨-, hmetronome, hrest⟩ := chained
    have hstopped : l.left.running = false := by
      rw [l.running_left, hmetronome]
      exact Metronome.stopped_operate hrunning (hop l List.mem_cons_self)
    exact ih hrest hstopped fun k hk => hop k (List.mem_cons_of_mem l hk)

/-- Looks without a tick, a stop and a shutdown leave the wait alone. -/
theorem awaits_leave {a : Tick} (chained : Chained m front) (w : m.Awaits a)
    (htick : ∀ k ∈ front, k.tick = none)
    (hop : ∀ k ∈ front, k.op ≠ .stop ∧ k.op ≠ .shutdown) : (leave m front).Awaits a := by
  -- by induction on the looks, with the wait as the invariant
  induction front generalizing m with
  | nil => exact w
  | cons l front ih =>
    obtain ⟨-, hmetronome, hrest⟩ := chained
    obtain ⟨hstop, hshutdown⟩ := hop l List.mem_cons_self
    have w : l.metronome.Awaits a := by
      rw [hmetronome]
      exact w.operate hstop hshutdown
    refine ih hrest (w.look l.clock (htick l List.mem_cons_self)) ?_ ?_
    · exact fun k hk => htick k (List.mem_cons_of_mem l hk)
    · exact fun k hk => hop k (List.mem_cons_of_mem l hk)

theorem at_look (chained : Chained m (front ++ l :: back)) :
    l.before = leave m front ∧ l.metronome = (leave m front).operate l.op ∧
      Chained l.left back :=
  (chained_append.1 chained).2

end Chained

/-- The law that the looks of a metronome and their ticks obey. -/
structure TickLaw (looks : List Look) : Prop where
  /-- A start of a stopped transport gives the first tick of a bar at once, on the beat. -/
  starts : ∀ front l back, looks = front ++ l :: back → (∀ k ∈ front, k.op ≠ .shutdown) →
    l.op = .start → l.before.running = false →
      ∃ t, l.tick = some t ∧ t.count = 1 ∧ t.onBeat = true ∧ t.instant = l.clock
  /-- If neither a stop nor a shutdown comes in between, the next tick after `a` is given by the
      first look that is one interval later, at the tempo of `a`. It takes the next place in the
      bar, at its own subdivision. -/
  follows : ∀ front la mid lb back a, looks = front ++ la :: (mid ++ lb :: back) →
    la.tick = some a → (∀ k ∈ mid, k.tick = none) →
    (∀ k ∈ mid ++ [lb], k.op ≠ .stop ∧ k.op ≠ .shutdown) →
      (lb.tick.isSome = true ↔ a.instant + tickSpacing a.bpm a.subdivision ≤ lb.clock) ∧
        ∀ b, lb.tick = some b → b.count = a.count % (4 * b.subdivision.multiplier) + 1
  /-- Every tick belongs to the time and to the stored tempo of its look. -/
  fits : ∀ l ∈ looks, ∀ t, l.tick = some t → t.Fits l.metronome.tempo l.clock
  /-- A stopped metronome gives no tick. -/
  silent_stopped : ∀ l ∈ looks, l.metronome.running = false → l.tick = none
  /-- The look after a stop gives no tick, and neither does any later one until the next start. -/
  silent_after_stop : ∀ front ls mid back, looks = front ++ ls :: (mid ++ back) →
    ls.op = .stop → (∀ k ∈ mid, k.op ≠ .start) → ∀ k ∈ ls :: mid, k.tick = none
  /-- No tick is given after a shutdown. -/
  silent_ended : ∀ front l back, looks = front ++ l :: back →
    (∃ k ∈ front ++ [l], k.op = .shutdown) → l.tick = none

theorem Look.fits_tick {l : Look} {t : Tick} (h : l.tick = some t) :
    t.Fits l.metronome.tempo l.clock := by
  obtain ⟨hended, hrunning⟩ := Metronome.running_of_tick h
  unfold Look.tick at h
  rw [Metronome.look_of_running hended hrunning] at h
  split at h
  · cases h
  · obtain rfl := Option.some.inj h
    exact Metronome.fits_tickAfter _ _ _

namespace Chained

variable {m : Metronome}

theorem tickLaw_starts {front back : List Look} {l : Look}
    (chained : Chained m (front ++ l :: back)) (sound : m.Sound) (hended : m.ended = false)
    (hshutdown : ∀ k ∈ front, k.op ≠ .shutdown) (hop : l.op = .start)
    (hrunning : l.before.running = false) :
    l.tick = some (Metronome.tickAfter l.before.tempo 0 l.clock) := by
  obtain ⟨hbefore, hmetronome, -⟩ := chained.at_look
  have chained := (chained_append.1 chained).1
  -- no operation before this one was a shutdown
  have hended : l.before.ended = false := by
    rw [hbefore]
    rw [← Bool.not_eq_true, chained.ended_leave, hended]
    rintro (h | ⟨k, hk, h⟩)
    · cases h
    · exact hshutdown k hk h
  unfold Look.tick
  rw [hmetronome, hop, ← hbefore]
  exact Metronome.look_start (hbefore ▸ chained.sound_leave sound) hended hrunning

/-- The look after some looks without a tick finds the loop waiting for the tick after `a`. -/
theorem awaits {front mid back : List Look} {la lb : Look} {a : Tick}
    (chained : Chained m (front ++ la :: (mid ++ lb :: back))) (sound : m.Sound)
    (ha : la.tick = some a) (htick : ∀ k ∈ mid, k.tick = none)
    (hop : ∀ k ∈ mid ++ [lb], k.op ≠ .stop ∧ k.op ≠ .shutdown) : lb.metronome.Awaits a := by
  -- the tick sets the wait up, the looks in between keep it, and so does the last operation
  have hsound : la.metronome.Sound := by
    rw [chained.at_look.2.1]
    exact ((chained_append.1 chained).1.sound_leave sound).operate
  have chained := chained.at_look.2.2
  have w : (leave la.left mid).Awaits a := by
    refine (chained_append.1 chained).1.awaits_leave (Metronome.awaits_of_tick hsound ha) htick ?_
    exact fun k hk => hop k (List.mem_append_left _ hk)
  obtain ⟨hstop, hshutdown⟩ := hop lb (List.mem_append_right _ List.mem_cons_self)
  rw [chained.at_look.2.1]
  exact w.operate hstop hshutdown

theorem silent_ended {front back : List Look} {l : Look}
    (chained : Chained m (front ++ l :: back))
    (hshutdown : ∃ k ∈ front ++ [l], k.op = .shutdown) : l.tick = none := by
  obtain ⟨-, hmetronome, -⟩ := chained.at_look
  have hended : l.metronome.ended = true := by
    rw [hmetronome, Metronome.ended_operate, (chained_append.1 chained).1.ended_leave]
    obtain ⟨k, hk, h⟩ := hshutdown
    rcases List.mem_append.1 hk with hk | hk
    · exact .inl (.inr ⟨k, hk, h⟩)
    · rw [List.mem_singleton.1 hk] at h
      exact .inr h
  unfold Look.tick
  rw [Metronome.look_of_ended hended]

theorem silent_after_stop {front mid back : List Look} {ls : Look}
    (chained : Chained m (front ++ ls :: (mid ++ back))) (hstop : ls.op = .stop)
    (hop : ∀ k ∈ mid, k.op ≠ .start) : ∀ k ∈ ls :: mid, k.tick = none := by
  obtain ⟨-, hmetronome, chained⟩ := chained.at_look
  have hstopped : ls.metronome.running = false := by
    rw [hmetronome, hstop]
    rfl
  have hleft : ls.left.running = false := ls.running_left.trans hstopped
  intro k hk
  rcases List.mem_cons.1 hk with rfl | hk
  · exact Metronome.look_of_stopped hstopped
  · -- no start stands between the stop and `k`, so the transport is stopped at `k` as well
    obtain ⟨early, late, rfl⟩ := List.append_of_mem hk
    rw [List.append_assoc, List.cons_append] at chained
    have hearly : (leave ls.left early).running = false := by
      refine (chained_append.1 chained).1.stopped_leave hleft ?_
      exact fun j hj => hop j (List.mem_append_left _ hj)
    apply Metronome.look_of_stopped
    rw [chained.at_look.2.1]
    exact Metronome.stopped_operate hearly (hop k hk)

/-- Looks that follow one another obey the law. -/
theorem tickLaw {looks : List Look} (chained : Chained m looks) (sound : m.Sound)
    (hended : m.ended = false) : TickLaw looks := by
  refine ⟨?_, ?_, ?_, ?_, ?_, ?_⟩
  · rintro front l back rfl hshutdown hop hrunning
    have htick := chained.tickLaw_starts sound hended hshutdown hop hrunning
    exact ⟨_, htick, by simp [Metronome.tickAfter], by simp [Metronome.tickAfter], rfl⟩
  · rintro front la mid lb back a rfl ha hmid hop
    -- from the tick before up to here the loop waits for the moment when the next is due
    have w := chained.awaits sound ha hmid hop
    have hlook : lb.tick = _ := w.look_eq lb.clock
    rw [hlook]
    split
    · rename_i hdue
      refine ⟨⟨fun _ => hdue, fun _ => rfl⟩, ?_⟩
      intro b hb
      obtain rfl := Option.some.inj hb
      rfl
    · rename_i hdue
      refine ⟨⟨fun h => absurd h (by simp), fun h => absurd h hdue⟩, ?_⟩
      intro b hb
      cases hb
  · exact fun l _ t ht => Look.fits_tick ht
  · exact fun l _ hrunning => Metronome.look_of_stopped hrunning
  · rintro front ls mid back rfl hstop hop
    exact chained.silent_after_stop hstop hop
  · rintro front l back rfl hshutdown
    exact chained.silent_ended hshutdown

end Chained

/-- **Tick law**: take a new metronome at any tempo and do anything to it. The ticks that its
    loop gives are the ticks of its looks, which come in the order of the operations, one after
    each operation and after each jump; and the looks obey the law of the ticks. -/
theorem MetronomeRun.looks_obey_tickLaw (bpm : Int) (subdivision : Subdivision)
    (ops : List MetronomeOp) :
    ((atTempo (Tempo.of bpm subdivision)).run ops).2 =
        ((atTempo (Tempo.of bpm subdivision)).looks ops).filterMap Look.tick ∧
      (((atTempo (Tempo.of bpm subdivision)).looks ops).map Look.op =
        ops.flatMap fun op => List.replicate op.lookCount op) ∧
      TickLaw ((atTempo (Tempo.of bpm subdivision)).looks ops) := by
  refine ⟨ticks_run _ ops, ops_looks _ ops, ?_⟩
  exact (chained_looks _ ops).tickLaw (Metronome.sound_atTempo bpm subdivision) rfl

end Rehearsal
