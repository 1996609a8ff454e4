import Rehearsal.Proofs.Session.SlotLooks

/-! # The law of the firing turns

  A turn that was armed fires at the first look that comes late enough, unless another turn, a
  cancel or a shutdown comes in between. `Waits` says of a record of looks alone that a turn is
  still to come; the key invariant is `Agrees`: the pending turn of the slot is the turn that
  waits, and the numbers of the turns grow with the looks.

  Main statement: `looks_obey_firingLaw`.
-/

namespace Rehearsal

/-- After some looks the turn still waits: one of the looks armed it, no operation has dropped it
    since, and it was not due at any look since, that first one included. -/
def Waits (looks : List SlotLook) (turn : PageTurn) : Prop :=
  Since (fun l => l.armed = some turn ∧ l.clock < turn.due)
    (fun l => ¬ l.op.Drops ∧ l.clock < turn.due) looks

/-- The law that the looks of a slot obey. -/
structure FiringLaw (looks : List SlotLook) : Prop where
  /-- The turns that are armed are numbered from one. -/
  numbered : (looks.filterMap SlotLook.armed).map PageTurn.id =
    List.range' 1 (looks.filterMap SlotLook.armed).length
  /-- Before a shutdown a turn that is asked for is armed and is due when its delay is over, and
      nothing keeps a turn from being cancelled. -/
  obeys : ∀ front l back, looks = front ++ l :: back → (∀ k ∈ front, k.op ≠ .shutdown) →
    (∀ delay bars, l.op = .arm delay bars → ∃ turn, l.answer = .armed (.ok turn) ∧
      turn.delay = delay ∧ turn.bars = bars ∧ turn.due = l.clock + delay) ∧
    (l.op = .cancel → l.answer = .cancelled (.ok ()))
  /-- A turn fires at a look exactly if it was armed just before, or has waited until now and was
      not dropped just before, and the look comes late enough. -/
  fires : ∀ front l back, looks = front ++ l :: back → ∀ turn, l.fired = some turn ↔
    (l.armed = some turn ∨ (Waits front turn ∧ ¬ l.op.Drops)) ∧ turn.due ≤ l.clock
  /-- The turns fire in the order of their numbers, none of them twice. -/
  increasing : ((looks.filterMap SlotLook.fired).map PageTurn.id).Pairwise (· < ·)
  /-- After a look the pending turn is the one that waits. -/
  pending : ∀ front l back, looks = front ++ l :: back → ∀ turn,
    l.pending = some turn ↔ Waits (front ++ [l]) turn
  /-- At most one turn waits. -/
  alone : ∀ front back, looks = front ++ back → ∀ turn other,
    Waits front turn → Waits front other → turn = other
  /-- The time that the pending turn still waits is the time until it is due, and not zero. -/
  remaining : ∀ l ∈ looks, ∀ turn, l.pending = some turn →
    0 < turn.remaining l.clock ∧ l.clock + turn.remaining l.clock = turn.due
  /-- After a shutdown nothing fires or waits any more, and the slot can neither be asked for a
      turn nor to cancel one. -/
  ended : ∀ front l back, looks = front ++ l :: back → (∃ k ∈ front, k.op = .shutdown) →
    l.fired = none ∧ l.pending = none ∧
      (∀ delay bars, l.op = .arm delay bars →
        l.answer = .armed (.error (.closed "action slot"))) ∧
      (l.op = .cancel → l.answer = .cancelled (.error (.closed "action slot")))

/-! ## The invariant -/

/-- The slot agrees with the looks that led to it. -/
structure Agrees (looks : List SlotLook) (s : TurnSlot) : Prop where
  pending : ∀ turn, s.pending = some turn ↔ Waits looks turn
  /-- The slot has ended exactly if it was shut down. -/
  ended : s.ended = true ↔ ∃ k ∈ looks, k.op = .shutdown
  quiet : s.ended = true → s.pending = none
  /-- As long as the slot has not ended, every number was given to a turn. -/
  nextId : s.ended = false → s.nextId = (looks.filterMap SlotLook.armed).length + 1
  /-- The turns that were armed are numbered from one. -/
  numbered : (looks.filterMap SlotLook.armed).map PageTurn.id =
    List.range' 1 (looks.filterMap SlotLook.armed).length
  pending_lt : ∀ turn, s.pending = some turn → turn.id < s.nextId
  /-- The numbers of the turns that fired were used up. -/
  fired_lt : ∀ turn ∈ looks.filterMap SlotLook.fired, turn.id < s.nextId
  /-- The turns that fired came before the pending one. -/
  fired_lt_pending : ∀ turn ∈ looks.filterMap SlotLook.fired, ∀ other, s.pending = some other →
    turn.id < other.id
  increasing : ((looks.filterMap SlotLook.fired).map PageTurn.id).Pairwise (· < ·)

theorem agrees_initial : Agrees [] SlotRun.initial.slot := by
  refine ⟨?_, by simp [SlotRun.initial, TurnSlot.empty], fun _ => rfl, fun _ => rfl, rfl, ?_, ?_,
    ?_, .nil⟩
  · intro turn
    constructor
    · intro h
      cases h
    · intro h
      exact absurd h not_since_nil
  · intro turn h
    cases h
  · intro turn h
    cases h
  · intro turn h
    cases h

namespace Agrees

variable {looks : List SlotLook} {l : SlotLook} {turn : PageTurn}

theorem nextId_le_operated (l : SlotLook) : l.found.slot.nextId ≤ l.operated.nextId := by
  cases hended : l.found.slot.ended with
  | false =>
    rw [l.nextId_operated hended]
    exact Nat.le_add_right _ _
  | true =>
    cases hop : l.op with
    | arm delay bars => simp [(l.arm_error hop hended).2]
    | cancel => simp [(l.cancel_error hop hended).2]
    | advance distance times => simp [SlotLook.operated, hop, SlotRun.act]
    | shutdown => simp [SlotLook.operated, hop, SlotRun.act, TurnSlot.shutdown]

theorem id_of_armed (h : l.armed = some turn) :
    turn.id = l.found.slot.nextId ∧ l.operated.nextId = turn.id + 1 := by
  obtain ⟨delay, bars, -, hended, hturn⟩ := l.armed_eq_some h
  have hid : turn.id = l.found.slot.nextId := by rw [hturn]
  refine ⟨hid, ?_⟩
  rw [l.nextId_operated hended, h, hid]
  rfl

/-- After the operation a turn is pending if it was armed just now, or has waited and was not
    dropped. -/
theorem operated (a : Agrees looks l.found.slot) :
    l.operated.pending = some turn ↔
      l.armed = some turn ∨ (Waits looks turn ∧ ¬ l.op.Drops) := by
  rw [l.pending_operated a.quiet, a.pending]

/-- After the operation the pending turn still comes after all that fired, and its number was
    used up. -/
theorem operated_lt (a : Agrees looks l.found.slot) (h : l.operated.pending = some turn) :
    turn.id < l.operated.nextId ∧
      ∀ other ∈ looks.filterMap SlotLook.fired, other.id < turn.id := by
  rcases (l.pending_operated a.quiet).1 h with harmed | ⟨hpending, -⟩
  · obtain ⟨hid, hnext⟩ := id_of_armed harmed
    refine ⟨by omega, ?_⟩
    intro other hother
    rw [hid]
    exact a.fired_lt other hother
  · refine ⟨Nat.lt_of_lt_of_le (a.pending_lt turn hpending) (nextId_le_operated l), ?_⟩
    intro other hother
    exact a.fired_lt_pending other hother turn hpending

/-- The turn that waits after one more look. -/
theorem pending_snoc (a : Agrees looks l.found.slot) :
    l.pending = some turn ↔ Waits (looks ++ [l]) turn := by
  rw [l.pending_eq_some, a.operated]
  unfold Waits
  rw [since_snoc]
  constructor
  · rintro ⟨harmed | ⟨hwaits, hdrops⟩, hclock⟩
    · exact .inl ⟨harmed, hclock⟩
    · exact .inr ⟨hwaits, hdrops, hclock⟩
  · rintro (⟨harmed, hclock⟩ | ⟨hwaits, hdrops, hclock⟩)
    · exact ⟨.inl harmed, hclock⟩
    · exact ⟨.inr ⟨hwaits, hdrops⟩, hclock⟩

/-- The turns that are armed go on being numbered one by one. -/
theorem numbered_snoc (a : Agrees looks l.found.slot) :
    ((looks ++ [l]).filterMap SlotLook.armed).map PageTurn.id =
      List.range' 1 ((looks ++ [l]).filterMap SlotLook.armed).length := by
  rw [filterMap_snoc_toList]
  cases harmed : l.armed with
  | none => simpa using a.numbered
  | some turn =>
    obtain ⟨delay, bars, -, hended, -⟩ := l.armed_eq_some harmed
    have hid : turn.id = 1 + (looks.filterMap SlotLook.armed).length := by
      rw [(id_of_armed harmed).1, a.nextId hended, Nat.add_comm]
    simp only [Option.toList_some, List.map_append, List.map_cons, List.map_nil,
      List.length_append, List.length_cons, List.length_nil, a.numbered]
    rw [List.range'_1_concat, hid]

/-- The turns go on firing in the order of their numbers. -/
theorem increasing_snoc (a : Agrees looks l.found.slot) :
    (((looks ++ [l]).filterMap SlotLook.fired).map PageTurn.id).Pairwise (· < ·) := by
  rw [filterMap_snoc_toList]
  cases hfired : l.fired with
  | none => simpa using a.increasing
  | some turn =>
    -- the turn that fires now was pending, and its number is beyond those that fired
    have hlt := (a.operated_lt (l.fired_eq_some.1 hfired).1).2
    rw [List.map_append, List.pairwise_append]
    refine ⟨a.increasing, by simp, ?_⟩
    intro i hi j hj
    obtain ⟨other, hother, rfl⟩ := List.mem_map.1 hi
    obtain rfl : j = turn.id := by simpa using hj
    exact hlt other hother

/-- **Step**: one more look keeps the invariant. -/
theorem snoc (a : Agrees looks l.found.slot) : Agrees (looks ++ [l]) l.left.slot := by
  have hpending : ∀ turn, l.left.slot.pending = some turn →
      l.operated.pending = some turn ∧ l.clock < turn.due :=
    fun turn h => l.pending_eq_some.1 h
  have hfired : ∀ turn ∈ (looks ++ [l]).filterMap SlotLook.fired,
      turn ∈ looks.filterMap SlotLook.fired ∨ l.fired = some turn := by
    intro turn hturn
    rw [filterMap_snoc_toList] at hturn
    simpa using hturn
  refine ⟨?_, ?_, ?_, ?_, a.numbered_snoc, ?_, ?_, ?_, a.increasing_snoc⟩
  · exact fun turn => a.pending_snoc
  · rw [l.left_ended, l.ended_operated, a.ended]
    simp [or_and_right, exists_or]
  · -- whatever ends the slot takes the pending turn along
    intro hended
    rw [l.left_ended, l.ended_operated] at hended
    cases hleft : l.left.slot.pending with
    | none => rfl
    | some turn =>
      rcases (l.pending_operated a.quiet).1 (hpending turn hleft).1 with harmed | ⟨hbefore, hdrops⟩
      · obtain ⟨delay, bars, hop, hnot, -⟩ := l.armed_eq_some harmed
        rcases hended with hended | hshutdown
        · rw [hnot] at hended
          cases hended
        · rw [hop] at hshutdown
          cases hshutdown
      · rcases hended with hended | hshutdown
        · rw [a.quiet hended] at hbefore
          cases hbefore
        · rw [hshutdown] at hdrops
          exact absurd trivial hdrops
  · intro hended
    rw [l.left_ended] at hended
    have hbefore : l.found.slot.ended = false := by
      rw [← Bool.not_eq_true] at hended ⊢
      exact fun h => hended (l.ended_operated.2 (.inl h))
    rw [l.left_nextId, l.nextId_operated hbefore, a.nextId hbefore, filterMap_snoc_toList,
      List.length_append]
    omega
  · intro turn hturn
    rw [l.left_nextId]
    exact (a.operated_lt (hpending turn hturn).1).1
  · intro turn hturn
    rw [l.left_nextId]
    rcases hfired turn hturn with hturn | hnow
    · exact Nat.lt_of_lt_of_le (a.fired_lt turn hturn) (nextId_le_operated l)
    · exact (a.operated_lt (l.fired_eq_some.1 hnow).1).1
  · intro turn hturn other hother
    obtain ⟨hother, hclock⟩ := hpending other hother
    rcases hfired turn hturn with hturn | hnow
    · exact (a.operated_lt hother).2 turn hturn
    · -- a turn that fires now is not pending any more
      obtain ⟨hnow, hdue⟩ := l.fired_eq_some.1 hnow
      rw [hnow] at hother
      obtain rfl := Option.some.inj hother
      exact absurd hdue (Nat.not_le.2 hclock)

end Agrees

namespace Watched

variable {looks : List SlotLook} {r : SlotRun}

/-- **Run invariant**: the slot agrees with the looks from the beginning on. -/
theorem agrees (w : Watched looks r) : Agrees looks r.slot := by
  induction w with
  | start => exact agrees_initial
  | snoc l _ hfound ih =>
    rw [← hfound] at ih
    exact ih.snoc

theorem agrees_found {front back : List SlotLook} {l : SlotLook}
    (w : Watched (front ++ l :: back) r) : Agrees front l.found.slot := by
  obtain ⟨before, hfront, hfound⟩ := w.before_look
  rw [hfound]
  exact hfront.agrees

/-- What was watched up to some look. -/
theorem waits_unique {front back : List SlotLook} (w : Watched (front ++ back) r)
    {turn other : PageTurn} (hturn : Waits front turn) (hother : Waits front other) :
    turn = other := by
  have hagrees : ∃ s, Agrees front s := by
    cases back with
    | nil =>
      rw [List.append_nil] at w
      exact ⟨r.slot, w.agrees⟩
    | cons l back => exact ⟨l.found.slot, w.agrees_found⟩
  obtain ⟨s, a⟩ := hagrees
  -- both are the one pending turn
  have hpending := (a.pending turn).2 hturn
  rw [(a.pending other).2 hother] at hpending
  exact (Option.some.inj hpending).symm

theorem clock_lt_due (w : Watched looks r) {turn : PageTurn} (h : r.slot.pending = some turn) :
    r.clock < turn.due := by
  cases w with
  | start => cases h
  | snoc l _ _ =>
    rw [l.left_clock]
    exact (l.pending_eq_some.1 h).2

end Watched

theorem PageTurn.remaining_of_lt {turn : PageTurn} {now : Instant} (h : now < turn.due) :
    0 < turn.remaining now ∧ now + turn.remaining now = turn.due :=
  ⟨Nat.sub_pos_of_lt h, Nat.add_sub_cancel' (Nat.le_of_lt h)⟩

/-! ## The law -/

namespace Watched

variable {looks front back : List SlotLook} {l : SlotLook} {r : SlotRun}

/-- Before a shutdown the slot does as it is told. -/
theorem obeys (w : Watched (front ++ l :: back) r) (hshutdown : ∀ k ∈ front, k.op ≠ .shutdown) :
    (∀ delay bars, l.op = .arm delay bars → ∃ turn, l.answer = .armed (.ok turn) ∧
      turn.delay = delay ∧ turn.bars = bars ∧ turn.due = l.clock + delay) ∧
    (l.op = .cancel → l.answer = .cancelled (.ok ())) := by
  have hended : l.found.slot.ended = false := by
    rw [← Bool.not_eq_true, w.agrees_found.ended]
    rintro ⟨k, hk, hop⟩
    exact hshutdown k hk hop
  constructor
  · intro delay bars hop
    exact ⟨_, (l.arm_ok hop hended).1, rfl, rfl, rfl⟩
  · intro hop
    exact (l.cancel_ok hop hended).1

/-- After a shutdown the slot does nothing any more. -/
theorem does_nothing (w : Watched (front ++ l :: back) r)
    (hshutdown : ∃ k ∈ front, k.op = .shutdown) :
    l.fired = none ∧ l.pending = none ∧
      (∀ delay bars, l.op = .arm delay bars →
        l.answer = .armed (.error TurnSlot.endedFailure)) ∧
      (l.op = .cancel → l.answer = .cancelled (.error TurnSlot.endedFailure)) := by
  have a := w.agrees_found
  have hended : l.found.slot.ended = true := a.ended.2 hshutdown
  -- nothing was pending, and nothing can be armed
  have hnone : l.operated.pending = none := by
    cases hpending : l.operated.pending with
    | none => rfl
    | some turn =>
      rcases (l.pending_operated a.quiet).1 hpending with harmed | ⟨hbefore, -⟩
      · obtain ⟨-, -, -, hnot, -⟩ := l.armed_eq_some harmed
        rw [hended] at hnot
        cases hnot
      · rw [a.quiet hended] at hbefore
        cases hbefore
  refine ⟨?_, ?_, ?_, ?_⟩
  · cases hfired : l.fired with
    | none => rfl
    | some turn =>
      have hsome := (l.fired_eq_some.1 hfired).1
      rw [hnone] at hsome
      cases hsome
  · cases hpending : l.pending with
    | none => rfl
    | some turn =>
      have hsome := (l.pending_eq_some.1 hpending).1
      rw [hnone] at hsome
      cases hsome
  · intro delay bars hop
    exact (l.arm_error hop hended).1
  · intro hop
    exact (l.cancel_error hop hended).1

/-- Looks that follow one another obey the law. -/
theorem firingLaw (w : Watched looks r) : FiringLaw looks := by
  -- each clause is read off the invariant, at the end or at one of the looks
  have a := w.agrees
  refine ⟨a.numbered, ?_, ?_, a.increasing, ?_, ?_, ?_, ?_⟩
  · rintro front l back rfl hshutdown
    exact w.obeys hshutdown
  · rintro front l back rfl turn
    rw [l.fired_eq_some, w.agrees_found.operated]
  · rintro front l back rfl turn
    exact w.agrees_found.pending_snoc
  · rintro front back rfl turn other hturn hother
    exact w.waits_unique hturn hother
  · intro l _ turn hturn
    exact PageTurn.remaining_of_lt (l.pending_eq_some.1 hturn).2
  · rintro front l back rfl hshutdown
    exact w.does_nothing hshutdown

end Watched

/-- **Firing law**: take an empty slot and do anything to it. What the operations answer and which
    turns they let fire is what their looks answer and let fire, one look after each operation and
    after each jump of the clock; and the looks obey the law of the firing turns. In the end a turn
    is pending exactly if it waits, and then it is still to come. -/
theorem SlotRun.looks_obey_firingLaw (ops : List SlotOp) :
    (initial.run ops).2.map (·.1) = ops ∧
      ((initial.looks ops).map fun l => (l.op, l.answer)) =
        ((initial.run ops).2.flatMap fun s => List.replicate s.1.lookCount (s.1, s.2.1)) ∧
      (initial.looks ops).filterMap SlotLook.fired =
        ((initial.run ops).2.flatMap fun s => s.2.2) ∧
      FiringLaw (initial.looks ops) ∧
      ∀ turn, (initial.run ops).1.slot.pending = some turn →
        Waits (initial.looks ops) turn ∧ 0 < turn.remaining (initial.run ops).1.clock ∧
          (initial.run ops).1.clock + turn.remaining (initial.run ops).1.clock = turn.due := by
  have w := watched_looks ops
  refine ⟨ops_run _ ops, answers_run _ ops, (fired_run _ ops).symm, w.firingLaw, ?_⟩
  intro turn hturn
  exact ⟨(w.agrees.pending turn).1 hturn, PageTurn.remaining_of_lt (w.clock_lt_due hturn)⟩

-- a turn without delay fires at once, one that is replaced never does
example : (SlotRun.initial.looks [.arm 0 1, .arm 5 1, .arm 3 2, .advance 2 2]).filterMap
    SlotLook.fired = [⟨1, 0, 0, 1⟩, ⟨3, 3, 3, 2⟩] := rfl

end Rehearsal
