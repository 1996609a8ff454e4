import Rehearsal.Proofs.Text.Words

/-! # Pieces of a text

  The pieces of a text between the characters of a class are the longest stretches without such a
  character, empty ones included (`mem_pieces_iff`).
-/

namespace Rehearsal.Text

variable {p : Char → Bool} {cs w : List Char}

/-- A longest stretch of a text without a character of a class. -/
structure IsStretch (p : Char → Bool) (w cs : List Char) : Prop where
  apart : ∀ c ∈ w, p c = false
  /-- It stands in the text, and characters of the class stand around it, or nothing. -/
  longest : ∃ before after, cs = before ++ (w ++ after) ∧ (∀ c ∈ before.getLast?, p c = true) ∧
    ∀ c ∈ after.head?, p c = true

theorem pieces_append_cons {c : Char} (h : p c = true) (as bs : List Char) :
    pieces p (as ++ c :: bs) = pieces p as ++ pieces p bs := by
  rw [pieces_eq_splitOnP, pieces_eq_splitOnP, pieces_eq_splitOnP, List.splitOnP_append_cons as bs h]

theorem pieces_of_apart (h : ∀ c ∈ w, p c = false) : pieces p w = [w] := by
  rw [pieces_eq_splitOnP, List.splitOnP_eq_singleton h]

theorem IsStretch.behind {c : Char} (h : IsStretch p w cs) (hc : p c = true) (front : List Char) :
    IsStretch p w (front ++ c :: cs) := by
  obtain ⟨before, after, rfl, hbefore, hafter⟩ := h.longest
  refine ⟨h.apart, front ++ c :: before, after, by simp, ?_, hafter⟩
  intro d hd
  rw [List.getLast?_append_of_ne_nil front (List.cons_ne_nil c before)] at hd
  cases before with
  | nil =>
    cases hd
    exact hc
  | cons b before => exact hbefore d (by simpa using hd)

/-- The pieces of a text are its longest stretches. -/
theorem mem_pieces_iff : w ∈ pieces p cs ↔ IsStretch p w cs := by
  constructor
  · intro h
    induction hlength : cs.length using Nat.strong_induction_on generalizing cs with
    | _ n ih =>
      -- cut at the first character of the class: the rest is shorter
      have hcut := List.takeWhile_append_dropWhile (p := fun c => !p c) (l := cs)
      have hfirst : ∀ c ∈ cs.takeWhile fun c => !p c, p c = false := by
        intro c hc
        simpa using List.mem_takeWhile_imp hc
      cases hrest : cs.dropWhile fun c => !p c with
      | nil =>
        rw [hrest, List.append_nil] at hcut
        rw [← hcut, pieces_of_apart hfirst, List.mem_singleton] at h
        subst h
        exact ⟨hfirst, [], [], by simp [hcut], by simp, by simp⟩
      | cons c rest =>
        have hc : p c = true := by
          have hhead := List.head?_dropWhile_not (fun c => !p c) cs
          rw [hrest] at hhead
          simpa using hhead
        rw [hrest] at hcut
        rw [← hcut, pieces_append_cons hc, pieces_of_apart hfirst, List.mem_append,
          List.mem_singleton] at h
        rw [← hcut]
        rcases h with rfl | h
        · exact ⟨hfirst, [], c :: rest, rfl, by simp, by simpa using hc⟩
        · have hlt : rest.length < n := by
            rw [← hlength, ← hcut, List.length_append, List.length_cons]
            omega
          exact (ih rest.length hlt h rfl).behind hc _
  · rintro ⟨hw, before, after, rfl, hbefore, hafter⟩
    have hfront : w ∈ pieces p (w ++ after) := by
      cases after with
      | nil => simp [pieces_of_apart hw]
      | cons c after => simp [pieces_append_cons (hafter c rfl), pieces_of_apart hw]
    rcases List.eq_nil_or_concat before with rfl | ⟨front, c, rfl⟩
    · exact hfront
    · rw [List.concat_eq_append, List.append_assoc, List.singleton_append,
        pieces_append_cons (hbefore c (by simp)), List.mem_append]
      exact .inr hfront

end Rehearsal.Text
