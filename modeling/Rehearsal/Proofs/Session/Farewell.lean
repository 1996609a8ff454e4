import Rehearsal.Session.Assistant

/-! # Only the intent to quit ends a conversation

  Every intent is answered with a sentence. The answer to the intent to quit ends the conversation,
  the answers to all others let it go on, and none of these can be taken for the goodbye: they begin
  with other letters.

  Main statement: `goesOn_carryOut`.
-/

namespace Rehearsal

namespace Response

/-- An answer after which the conversation goes on, and which does not sound like its end. -/
structure GoesOn (r : Response) : Prop where
  quits : r.quits = false
  /-- It is not the last sentence. -/
  text : r.text ≠ goodbye.text

variable {text : String} {c : Char} {cs : List Char}

theorem ne_goodbye (htext : text.toList = c :: cs) (hc : c ≠ 'G') : text ≠ goodbye.text := by
  rintro rfl
  exact hc (List.cons.inj htext).1.symm

theorem goesOn_say (htext : text.toList = c :: cs) (hc : c ≠ 'G') : GoesOn (say text) :=
  ⟨rfl, ne_goodbye htext hc⟩

theorem goesOn_say_append (htext : text.toList = c :: cs) (hc : c ≠ 'G') (middle rest : String) :
    GoesOn (say (text ++ middle ++ rest)) := by
  have hfirst : (text ++ middle ++ rest).toList = c :: (cs ++ (middle.toList ++ rest.toList)) := by
    rw [String.append_assoc, String.toList_append, String.toList_append, htext, List.cons_append]
  exact goesOn_say hfirst hc

theorem goesOn_tempoSet (bpm : Nat) : GoesOn (tempoSet bpm) :=
  goesOn_say_append rfl (by decide) _ _

theorem goesOn_tempoIs (bpm : Nat) : GoesOn (tempoIs bpm) :=
  goesOn_say_append rfl (by decide) _ _

theorem goesOn_pageIs (page : Nat) : GoesOn (pageIs page) :=
  goesOn_say_append rfl (by decide) _ _

theorem goesOn_subdivisionSet (s : Subdivision) : GoesOn (subdivisionSet s) :=
  goesOn_say_append rfl (by decide) _ _

theorem goesOn_askSubdivision : GoesOn askSubdivision :=
  goesOn_say_append rfl (by decide) _ _

theorem goesOn_turnScheduled (bars : Nat) : GoesOn (turnScheduled bars) :=
  goesOn_say_append rfl (by decide) _ _

theorem goesOn_help : GoesOn help := goesOn_say_append rfl (by decide) _ _

theorem goesOn_noScore : GoesOn noScore := goesOn_say rfl (by decide)

end Response

namespace Assistant

open Response

variable {a : Assistant} {now : Instant} {intent : Intent}

theorem goesOn_turnTo (a : Assistant) (move : Pager → Pager) : GoesOn (a.turnTo move).2 := by
  unfold turnTo
  split
  · exact goesOn_noScore
  · exact goesOn_pageIs _

theorem goesOn_scheduleTurn (a : Assistant) (now : Instant) (bars : Nat) :
    GoesOn (a.scheduleTurn now bars).2 := by
  unfold scheduleTurn
  split
  · exact goesOn_noScore
  · dsimp only
    split
    · exact goesOn_turnScheduled bars
    · exact goesOn_say rfl (by decide)

theorem goesOn_askAboutScore {question : Response} (h : GoesOn question) (a : Assistant) :
    GoesOn (a.askAboutScore question) := by
  unfold askAboutScore
  split
  · exact goesOn_noScore
  · exact h

theorem goesOn_startMetronome (a : Assistant) : GoesOn a.startMetronome.2 := by
  unfold startMetronome
  dsimp only
  split <;> exact goesOn_say rfl (by decide)

theorem goesOn_stopMetronome (a : Assistant) : GoesOn a.stopMetronome.2 := by
  unfold stopMetronome
  dsimp only
  split <;> exact goesOn_say rfl (by decide)

theorem goesOn_tapTempo (a : Assistant) (now : Instant) : GoesOn (a.tapTempo now).2 := by
  unfold tapTempo
  dsimp only
  split
  · exact goesOn_tempoSet _
  · exact goesOn_say rfl (by decide)

/-- The conversation goes on after every intent but the one to quit. -/
theorem goesOn_carryOut (h : intent ≠ .quit) (a : Assistant) (now : Instant) :
    GoesOn (a.carryOut now intent).2 := by
  match intent, h with
  | .startMetronome, _ => exact goesOn_startMetronome a
  | .stopMetronome, _ => exact goesOn_stopMetronome a
  | .tapTempo, _ => exact goesOn_tapTempo a now
  | .queryTempo, _ => exact goesOn_tempoIs _
  | .setTempo (some _), _ => exact goesOn_tempoSet _
  | .setTempo none, _ => exact goesOn_say rfl (by decide)
  | .adjustTempo _ .up, _ => exact goesOn_tempoSet _
  | .adjustTempo _ .down, _ => exact goesOn_tempoSet _
  | .setSubdivision (some s), _ => exact goesOn_subdivisionSet s
  | .setSubdivision none, _ => exact goesOn_askSubdivision
  | .nextPage, _ => exact goesOn_turnTo a _
  | .prevPage, _ => exact goesOn_turnTo a _
  | .gotoPage (some _), _ => exact goesOn_turnTo a _
  | .gotoPage none, _ => exact goesOn_askAboutScore (goesOn_say rfl (by decide)) a
  | .schedulePageTurn (some (bars + 1)), _ => exact goesOn_scheduleTurn a now (bars + 1)
  | .schedulePageTurn (some 0), _ => exact goesOn_askAboutScore (goesOn_say rfl (by decide)) a
  | .schedulePageTurn none, _ => exact goesOn_askAboutScore (goesOn_say rfl (by decide)) a
  | .help, _ => exact goesOn_help
  | .unknown, _ => exact goesOn_say rfl (by decide)
  | .quit, h => exact absurd rfl h

end Assistant

end Rehearsal
