import Mathlib.Data.List.Chain
import Rehearsal.Proofs.Metronome.TickLaw
import Rehearsal.Proofs.Pager.PageRange
import Rehearsal.Proofs.Session.TwoSides

/-! # The values of a session stay in range

  Several parties write the same few values: the tempo is spoken, changed by an amount and tapped,
  the page is turned by hand and by a turn whose time has come, and scores are loaded at any time.
  Whoever writes, the tempo stays between its bounds together with the interval that it implies,
  the page stays on the score, and the taps that count stay few, in order and close together.

  `Session.InRange` says so of a session at a time. Each side of the session keeps its own part:
  the beat its tempo and its taps, the pages their page.

  Main statement: `values_in_range`.
-/

namespace Rehearsal

/-! ## Tempo -/

/-- The tempo is between its bounds, and its interval is the one that it would be made with. -/
structure Tempo.InRange (t : Tempo) : Prop where
  /-- It is not too slow. -/
  slowest_le : 20 ≤ t.bpm
  /-- It is not too fast. -/
  le_fastest : t.bpm ≤ 300
  /-- The interval is not out of date. -/
  interval : t.interval = (Tempo.of t.bpm t.subdivision).interval

namespace Tempo

theorem inRange_of (bpm : Int) (subdivision : Subdivision) :
    (Tempo.of bpm subdivision).InRange := by
  obtain ⟨hslowest, hfastest⟩ := nearestBpm_range bpm
  refine ⟨hslowest, hfastest, ?_⟩
  -- what is in range already is not moved again
  show tickSpacing (nearestBpm bpm) subdivision =
      tickSpacing (nearestBpm (nearestBpm bpm)) subdivision
  rw [nearestBpm_of_range hslowest hfastest]

variable {t : Tempo}

theorem InRange.setSubdivision (h : t.InRange) (subdivision : Subdivision) :
    (t.setSubdivision subdivision).InRange := by
  refine ⟨h.slowest_le, h.le_fastest, ?_⟩
  show tickSpacing t.bpm subdivision = tickSpacing (nearestBpm t.bpm) subdivision
  rw [nearestBpm_of_range h.slowest_le h.le_fastest]

/-- No tempo in range is so fast that the time between two ticks is rounded to nothing. -/
theorem InRange.interval_pos (h : t.InRange) : 0 < t.interval := by
  -- all tempos and subdivisions, one by one
  have hall : ∀ extra ∈ List.range 281, ∀ s ∈ Subdivision.all, 0 < tickSpacing (20 + extra) s := by
    decide +kernel
  have hextra : t.bpm - 20 ∈ List.range 281 := by
    have hfastest := h.le_fastest
    rw [List.mem_range]
    omega
  have hpos := hall _ hextra _ t.subdivision.mem_all
  rw [Nat.add_sub_cancel' h.slowest_le] at hpos
  rw [h.interval]
  show 0 < tickSpacing (nearestBpm t.bpm) t.subdivision
  rw [nearestBpm_of_range h.slowest_le h.le_fastest]
  exact hpos

end Tempo

/-! ## Page -/

namespace Pager

/-- The pager has just been opened: it is at the first page, and its length is known or not. -/
def IsOpened (p : Pager) : Prop := ∃ path total, p = (ofPath path).withTotal total

/-- The page is on the score. -/
structure InRange (p : Pager) : Prop where
  /-- A known length is not zero, and pages count from one. -/
  placed : p.Placed
  /-- The page is not beyond the last one, if the length is known. -/
  current_le : ∀ n, p.total = some n → p.current ≤ n

variable {p : Pager}

theorem IsOpened.inRange (h : p.IsOpened) : p.InRange := by
  obtain ⟨path, total, rfl⟩ := h
  refine ⟨(placed_ofPath path).withTotal total, ?_⟩
  intro n hn
  have hpos := (Option.filter_eq_some_iff.1 hn).2
  exact of_decide_eq_true hpos

theorem InRange.goto (h : p.InRange) (page : Nat) : (p.goto page).InRange := by
  refine ⟨h.placed.goto page, ?_⟩
  intro n hn
  have hlast : p.last = n := by
    show p.total.getD maxPage = n
    rw [show p.total = some n from hn]
    rfl
  rw [← hlast]
  exact h.placed.current_le_last_goto page

end Pager

/-! ## Taps -/

namespace Taps

/-- The taps that count are few, in order, close together, and not ahead of the clock. -/
structure Regular (t : Taps) (now : Instant) : Prop where
  /-- Only the last four count. -/
  count_le : t.count ≤ 4
  /-- Each tap comes after the one before it, and at most three seconds later. -/
  spaced : t.instants.IsChain fun a b => a ≤ b ∧ b ≤ a + Duration.ofSeconds 3
  /-- The last tap is past. -/
  past : ∀ last, t.instants.getLast? = some last → last ≤ now

variable {t : Taps} {now later : Instant}

theorem regular_empty (now : Instant) : empty.Regular now := by
  refine ⟨Nat.zero_le 4, List.isChain_nil, ?_⟩
  intro last hlast
  cases hlast

theorem Regular.mono (h : t.Regular now) (hle : now ≤ later) : t.Regular later :=
  ⟨h.count_le, h.spaced, fun last hlast => Nat.le_trans (h.past last hlast) hle⟩

/-- One more tap goes on with the series, or begins a new one after a long pause. -/
theorem Regular.spaced_series (h : t.Regular now) :
    (t.series now ++ [now]).IsChain fun a b => a ≤ b ∧ b ≤ a + Duration.ofSeconds 3 := by
  unfold series
  cases hlast : t.instants.getLast? with
  | none => exact List.isChain_singleton now
  | some last =>
    -- after a long pause the new tap stands alone
    by_cases hpause : longestPause < now - last
    · simp only [if_pos hpause]
      exact List.isChain_singleton now
    · simp only [if_neg hpause]
      refine List.isChain_append.2 ⟨h.spaced, List.isChain_singleton now, ?_⟩
      intro a ha b hb
      obtain rfl : last = a := Option.some.inj (hlast.symm.trans ha)
      obtain rfl : now = b := Option.some.inj hb
      have hclose : now - last ≤ Duration.ofSeconds 3 := Nat.le_of_not_lt hpause
      exact ⟨h.past last hlast, Nat.sub_le_iff_le_add'.1 hclose⟩

theorem Regular.tap (h : t.Regular now) : (t.tap now).Regular now := by
  have hseries := h.spaced_series
  refine ⟨?_, hseries.drop _, ?_⟩
  · show (lastFew (t.series now ++ [now])).length ≤ 4
    simp only [lastFew, capacity, List.length_drop]
    omega
  · intro last hlast
    -- the new tap is the last one, whatever was dropped in front
    have hkept : (t.series now ++ [now]).length - capacity ≤ (t.series now).length := by
      simp only [capacity, List.length_append, List.length_singleton]
      omega
    have htap : (t.tap now).instants =
        (t.series now).drop ((t.series now ++ [now]).length - capacity) ++ [now] :=
      List.drop_append_of_le_length hkept
    rw [htap, List.getLast?_concat] at hlast
    exact Nat.le_of_eq (Option.some.inj hlast).symm

end Taps

/-! ## The session -/

/-- The values of a session are in range at a time. -/
structure Session.InRange (s : Session) (now : Instant) : Prop where
  /-- The tempo is between its bounds, with its own interval. -/
  tempo : s.metronome.tempo.InRange
  /-- The page is on the score, if there is one. -/
  pager : ∀ p, s.pager = some p → p.InRange
  /-- The taps are regular. -/
  taps : s.taps.Regular now

/-! ## The beat -/

/-- The values of the beat are in range at a time. -/
structure Beat.InRange (b : Beat) (now : Instant) : Prop where
  /-- The tempo is between its bounds, with its own interval. -/
  tempo : b.metronome.tempo.InRange
  /-- The taps are regular. -/
  taps : b.taps.Regular now

namespace Beat

variable {b : Beat} {now : Instant}

theorem InRange.start (h : b.InRange now) :
    InRange { b with metronome := b.metronome.start.1 } now := by
  refine ⟨?_, h.taps⟩
  show b.metronome.start.1.tempo.InRange
  rw [b.metronome.start_frame.1]
  exact h.tempo

theorem InRange.tap (h : b.InRange now) : (b.tap now).InRange now := by
  unfold Beat.tap
  split
  · exact ⟨Tempo.inRange_of _ _, h.taps.tap⟩
  · exact ⟨h.tempo, h.taps.tap⟩

/-- **Intents** keep the beat in range. -/
theorem InRange.carryOut (h : b.InRange now) (intent : Intent) :
    (b.carryOut now intent).InRange now := by
  have hset : ∀ bpm, InRange ⟨b.metronome.setBpm bpm, .empty⟩ now := by
    intro bpm
    exact ⟨Tempo.inRange_of bpm _, Taps.regular_empty now⟩
  match intent with
  | .startMetronome => exact h.start
  | .stopMetronome => exact ⟨h.tempo, h.taps⟩
  | .tapTempo => exact h.tap
  | .setTempo (some bpm) => exact hset bpm
  | .adjustTempo delta .up => exact hset _
  | .adjustTempo delta .down => exact hset _
  | .setSubdivision (some s) => exact ⟨h.tempo.setSubdivision s, h.taps⟩
  -- what concerns the pages, or is only answered, writes nothing
  | .setTempo none | .setSubdivision none | .queryTempo => exact h
  | .nextPage | .prevPage | .gotoPage _ | .schedulePageTurn _ => exact h
  | .help | .quit | .unknown => exact h

theorem InRange.act (h : b.InRange now) (step : PracticeStep) : (b.act now step).InRange now := by
  cases step with
  | intent intent => exact h.carryOut intent
  | shutdown => exact ⟨h.tempo, h.taps⟩
  | showPage => exact h
  | load pager => exact h
  | forgetScheduled => exact h
  | advance distance times => exact h
  | nothing => exact h

/-- **Step**: whatever happens, the beat stays in range. -/
theorem InRange.undergo (h : b.InRange now) (what : Happening) :
    (b.undergo now what).1.InRange (now + what.duration) := by
  cases what with
  | act step => exact h.act step
  | pass time => exact ⟨h.tempo, h.taps.mono (Nat.le_add_right now time)⟩
  | lookAtTicks =>
    -- the tick loop reads the tempo and never writes it
    refine ⟨?_, h.taps⟩
    show (b.metronome.look now).1.tempo.InRange
    rw [(Metronome.look_frame b.metronome now).1]
    exact h.tempo
  | lookAtTurn => exact h
  | read => exact h

end Beat

/-! ## The pages -/

def Pages.InRange (v : Pages) : Prop := ∀ p, v.pager = some p → p.InRange

namespace Pages

variable {v : Pages} {now : Instant} {bpm : Nat}

theorem InRange.turnTo (h : v.InRange) {move : Pager → Pager}
    (hmove : ∀ p, ∃ page, move p = p.goto page) : (v.turnTo move).InRange := by
  unfold Pages.turnTo
  split
  · exact h
  · rename_i pager hpager
    intro p hp
    obtain ⟨page, hgoto⟩ := hmove pager
    obtain rfl : move pager = p := Option.some.inj hp
    rw [hgoto]
    exact (h pager hpager).goto page

theorem InRange.schedule (h : v.InRange) (bars : Nat) : (v.schedule bpm now bars).InRange := by
  unfold Pages.schedule
  split
  · exact h
  · split
    · exact h
    · exact h

/-- **Intents** keep the page on the score. -/
theorem InRange.carryOut (h : v.InRange) (intent : Intent) :
    (v.carryOut bpm now intent).InRange := by
  match intent with
  | .nextPage => exact h.turnTo fun p => ⟨p.current + 1, rfl⟩
  | .prevPage => exact h.turnTo fun p => ⟨p.current - 1, rfl⟩
  | .gotoPage (some page) => exact h.turnTo fun _ => ⟨page, rfl⟩
  | .schedulePageTurn (some (bars + 1)) => exact h.schedule (bars + 1)
  -- what concerns the beat, or is only answered, writes nothing
  | .gotoPage none | .schedulePageTurn none | .schedulePageTurn (some 0) => exact h
  | .startMetronome | .stopMetronome | .tapTempo | .queryTempo => exact h
  | .setTempo _ | .adjustTempo .. | .setSubdivision _ => exact h
  | .help | .quit | .unknown => exact h

theorem InRange.act (h : v.InRange) {step : PracticeStep}
    (hload : ∀ pager, step = .load (some pager) → pager.IsOpened) :
    (v.act bpm now step).InRange := by
  cases step with
  | intent intent => exact h.carryOut intent
  | showPage =>
    unfold Pages.act
    dsimp only
    split
    · exact h
    · exact h
  | load pager =>
    intro p hp
    obtain rfl : pager = some p := hp
    exact (hload p rfl).inRange
  | shutdown => exact h
  | forgetScheduled => exact h
  | advance distance times => exact h
  | nothing => exact h

/-- **Turns whose time has come** keep the page on the score, be they late or not. -/
theorem InRange.fire (h : v.InRange) (turn : PageTurn) : (v.fire turn).1.InRange := by
  unfold Pages.fire
  split
  · split
    · exact h
    · rename_i pager hpager
      intro p hp
      obtain rfl : pager.next = p := Option.some.inj hp
      exact (h pager hpager).goto (pager.current + 1)
  · exact h

theorem InRange.look (h : v.InRange) : (v.look now).1.InRange := by
  unfold Pages.look
  split
  · rename_i slot turn _
    have hslot : InRange { v with slot } := h
    exact hslot.fire turn
  · exact h

/-- **Step**: whatever happens, the page stays on the score. -/
theorem InRange.undergo (h : v.InRange) {what : Happening}
    (hload : ∀ pager, what = .act (.load (some pager)) → pager.IsOpened) :
    (v.undergo bpm now what).1.InRange := by
  cases what with
  | act step =>
    apply h.act
    intro pager hstep
    exact hload pager (congrArg Happening.act hstep)
  | lookAtTurn => exact h.look
  | pass time => exact h
  | lookAtTicks => exact h
  | read => exact h

end Pages

/-! ## Both -/

namespace Practice

variable {p : Practice}

/-- **Run**: the beat stays in range, whatever happens. -/
theorem beat_inRange_after (h : p.beat.InRange p.clock) (whats : List Happening) :
    (p.after whats).beat.InRange (p.after whats).clock := by
  induction whats generalizing p with
  | nil => exact h
  | cons what whats ih =>
    apply ih
    show (p.undergo what).1.beat.InRange (p.undergo what).1.clock
    rw [(p.beat_undergo what).1, p.clock_undergo what]
    exact h.undergo what

/-- **Run**: the page stays on the score, if every score that is loaded is newly opened. -/
theorem pages_inRange_after (h : p.pages.InRange) {whats : List Happening}
    (hloads : ∀ pager, .act (.load (some pager)) ∈ whats → pager.IsOpened) :
    (p.after whats).pages.InRange := by
  induction whats generalizing p with
  | nil => exact h
  | cons what whats ih =>
    -- only a loaded score brings in a page from outside
    have hfirst : (p.undergo what).1.pages.InRange := by
      rw [(p.pages_undergo what).1]
      apply h.undergo
      intro pager hwhat
      exact hloads pager (by rw [hwhat]; exact List.mem_cons_self)
    apply ih hfirst
    intro pager hpager
    exact hloads pager (List.mem_cons_of_mem what hpager)

/-- **Values in range**: take a new session at any requested tempo, with a newly opened score or
    without, and anything that happens to it, as long as the scores that are loaded are newly opened
    as well. After it the tempo is between 20 and 300 beats per minute with the interval that it
    would be made with, the page is on the score, and at most four taps count, in order, each at
    most three seconds after the one before it, the last one not ahead of the clock. -/
theorem values_in_range {bpm : Int} {subdivision : Subdivision} {pager : Option Pager}
    {failing : Bool} {whats : List Happening} {p : Practice}
    (hreached : (start (.start (.start (.atTempo (.of bpm subdivision)) pager) failing)).after whats
      = p)
    (hpager : ∀ opened, pager = some opened → opened.IsOpened)
    (hloads : ∀ opened, .act (.load (some opened)) ∈ whats → opened.IsOpened) :
    p.assistant.session.InRange p.clock := by
  have hbeat : (start (.start (.start (.atTempo (.of bpm subdivision)) pager) failing)).beat.InRange
      0 := ⟨Tempo.inRange_of bpm subdivision, Taps.regular_empty 0⟩
  have hpages : (start (.start (.start (.atTempo (.of bpm subdivision)) pager)
      failing)).pages.InRange := by
    intro opened hopened
    exact (hpager opened hopened).inRange
  have hbeat' := beat_inRange_after hbeat whats
  have hpages' := pages_inRange_after hpages hloads
  rw [← hreached]
  exact ⟨hbeat'.tempo, hpages', hbeat'.taps⟩

/-- Taps, a jump beyond the end and a shorter score, loaded while a turn waits. -/
theorem values_in_range_new_score :
    ∃ p : Practice,
      (start (.start (.start (.atTempo (.of 1000 .triplet))
          (some ((Pager.ofPath "etude.pdf").withTotal (some 9)))) false)).after
        [.act (.intent .tapTempo), .pass (Duration.ofMillis 500), .act (.intent .tapTempo),
          .act (.intent (.gotoPage (some 12))), .act (.intent (.schedulePageTurn (some 1))),
          .act (.load (some ((Pager.ofPath "waltz.pdf").withTotal (some 2)))),
          .pass (Duration.ofSeconds 60), .lookAtTurn] = p ∧
        p.assistant.session.InRange p.clock := by
  refine ⟨_, rfl, values_in_range rfl ?_ ?_⟩
  · intro opened hopened
    exact ⟨"etude.pdf", some 9, (Option.some.inj hopened).symm⟩
  · intro opened hopened
    refine ⟨"waltz.pdf", some 2, ?_⟩
    simpa using hopened

end Practice

end Rehearsal
