import Rehearsal.Pattern.Basic

/-! # The language of a pattern

  `Spans p before m after` says, without reference to any search, that the stretch `m` of the
  text `before ++ m ++ after` is described by `p`. `Occurs p text` says that some stretch of
  the text is.

  Main statement: `occurs_iff`, the search decides `Occurs`.
-/

namespace Rehearsal

open Text

namespace Pattern

/-- The stretch `m`, standing between `before` and `after`, is described by the pattern. -/
inductive Spans : Pattern → List Char → List Char → List Char → Prop where
  | nothing {before after : List Char} : Spans .nothing before [] after
  /-- A boundary is the empty stretch between a word character and something else. -/
  | boundary {before after : List Char} :
      Place.isBoundary before.getLast? after.head? = true → Spans .boundary before [] after
  | one {set : CharSet} {before after : List Char} {c : Char} :
      set.accepts c = true → Spans (.one set) before [c] after
  | seq {p q : Pattern} {before m n after : List Char} :
      Spans p before m (n ++ after) → Spans q (before ++ m) n after →
        Spans (.seq p q) before (m ++ n) after
  | left {p q : Pattern} {before m after : List Char} :
      Spans p before m after → Spans (.either p q) before m after
  | right {p q : Pattern} {before m after : List Char} :
      Spans q before m after → Spans (.either p q) before m after
  | present {p : Pattern} {before m after : List Char} :
      Spans p before m after → Spans (.maybe p) before m after
  | absent {p : Pattern} {before after : List Char} : Spans (.maybe p) before [] after
  | many {set : CharSet} {before m after : List Char} :
      (∀ c ∈ m, set.accepts c = true) → Spans (.many set) before m after

/-- Some stretch of the text is described by the pattern. -/
def Occurs (p : Pattern) (text : List Char) : Prop :=
  ∃ before m after, text = before ++ m ++ after ∧ p.Spans before m after

/-! ### The search and the language agree -/

/-- The place between two parts of a text. -/
def placeAfter (before after : List Char) : Place := ⟨before.getLast?, after⟩

/-- The ends of a run are its beginnings of every length, behind the ends given. -/
theorem mem_runEnds (set : CharSet) (before : List Char) (rest : List Char)
    (shorter : List Place) (e : Place) :
    e ∈ runEnds set shorter before.getLast? rest ↔
      e ∈ shorter ∨ ∃ m after, rest = m ++ after ∧ e = placeAfter (before ++ m) after ∧
        ∀ c ∈ m, set.accepts c = true := by
  induction rest generalizing before shorter with
  | nil =>
    simp only [runEnds, List.mem_cons]
    constructor
    · rintro (rfl | h)
      · exact .inr ⟨[], [], by simp [placeAfter]⟩
      · exact .inl h
    · rintro (h | ⟨m, after, h, rfl, -⟩)
      · exact .inr h
      · obtain ⟨rfl, rfl⟩ := List.nil_eq_append_iff.1 h
        exact .inl (by simp [placeAfter])
  | cons c rest ih =>
    unfold runEnds
    split
    -- the run goes on: what is added to the shorter ones is empty or begins with `c`
    · rename_i hc
      have step := ih (before ++ [c]) (⟨before.getLast?, c :: rest⟩ :: shorter)
      rw [List.getLast?_append] at step
      simp only [List.getLast?_singleton, Option.some_or] at step
      rw [step]
      simp only [List.mem_cons]
      constructor
      · rintro ((rfl | h) | ⟨m, after, rfl, rfl, hm⟩)
        · exact .inr ⟨[], c :: rest, by simp [placeAfter]⟩
        · exact .inl h
        · refine .inr ⟨c :: m, after, by simp, by simp, ?_⟩
          intro d hd
          rcases List.mem_cons.1 hd with rfl | hd
          · exact hc
          · exact hm d hd
      · rintro (h | ⟨m, after, hsplit, rfl, hm⟩)
        · exact .inl (.inr h)
        · cases m with
          | nil =>
            simp only [List.nil_append] at hsplit
            subst hsplit
            exact .inl (.inl (by simp [placeAfter]))
          | cons d m =>
            simp only [List.cons_append, List.cons.injEq] at hsplit
            obtain ⟨rfl, rfl⟩ := hsplit
            exact .inr ⟨m, after, rfl, by simp, fun x hx => hm x (List.mem_cons_of_mem _ hx)⟩
    -- the run stops, with the empty stretch at most
    · rename_i hc
      simp only [List.mem_cons]
      constructor
      · rintro (rfl | h)
        · exact .inr ⟨[], c :: rest, by simp [placeAfter]⟩
        · exact .inl h
      · rintro (h | ⟨m, after, hsplit, rfl, hm⟩)
        · exact .inr h
        · cases m with
          | nil =>
            simp only [List.nil_append] at hsplit
            subst hsplit
            exact .inl (by simp [placeAfter])
          | cons d m =>
            simp only [List.cons_append, List.cons.injEq] at hsplit
            obtain ⟨rfl, -⟩ := hsplit
            exact absurd (hm c List.mem_cons_self) hc

/-- A match can end exactly where the language says so. -/
theorem mem_ends (p : Pattern) (before rest : List Char) (e : Place) :
    e ∈ p.ends (placeAfter before rest) ↔
      ∃ m after, rest = m ++ after ∧ e = placeAfter (before ++ m) after ∧
        p.Spans before m after := by
  induction p generalizing before rest e with
  | nothing =>
    simp only [ends, List.mem_singleton]
    constructor
    · rintro rfl
      exact ⟨[], rest, by simp, by simp, .nothing⟩
    · rintro ⟨m, after, rfl, rfl, h⟩
      cases h
      simp
  | boundary =>
    simp only [ends]
    constructor
    · intro h
      split at h
      · rename_i hb
        simp only [List.mem_singleton] at h
        subst h
        exact ⟨[], rest, by simp, by simp, .boundary hb⟩
      · simp at h
    · rintro ⟨m, after, rfl, rfl, h⟩
      cases h with
      | boundary hb => simp [placeAfter, hb]
  -- a match is one character of the class, so there has to be one
  | one set =>
    simp only [ends]
    constructor
    · intro h
      split at h
      · simp at h
      · rename_i c after hrest
        simp only [placeAfter] at hrest
        subst hrest
        split at h
        · rename_i hc
          simp only [List.mem_singleton] at h
          subst h
          exact ⟨[c], after, by simp, by simp [placeAfter], .one hc⟩
        · simp at h
    · rintro ⟨m, after, rfl, rfl, h⟩
      cases h with
      | one hc => simp [placeAfter, hc]
  -- the second part begins where the first one ends
  | seq p q ihp ihq =>
    simp only [ends, List.mem_flatMap]
    constructor
    · rintro ⟨middle, hp, hq⟩
      obtain ⟨m, after, rfl, rfl, hm⟩ := (ihp before rest middle).1 hp
      obtain ⟨n, tail, rfl, rfl, hn⟩ := (ihq (before ++ m) after e).1 hq
      exact ⟨m ++ n, tail, by simp, by simp, .seq hm hn⟩
    · rintro ⟨_, after, rfl, rfl, h⟩
      cases h with
      | @seq _ _ _ m n _ hp hq =>
        refine ⟨placeAfter (before ++ m) (n ++ after), ?_, ?_⟩
        · exact (ihp _ _ _).2 ⟨m, n ++ after, by simp, rfl, hp⟩
        · exact (ihq _ _ _).2 ⟨n, after, rfl, by simp, hq⟩
  | either p q ihp ihq =>
    simp only [ends, List.mem_append, ihp, ihq]
    constructor
    · rintro (⟨m, after, rfl, rfl, h⟩ | ⟨m, after, rfl, rfl, h⟩)
      · exact ⟨m, after, rfl, rfl, .left h⟩
      · exact ⟨m, after, rfl, rfl, .right h⟩
    · rintro ⟨m, after, rfl, rfl, h⟩
      cases h with
      | left h => exact .inl ⟨m, after, rfl, rfl, h⟩
      | right h => exact .inr ⟨m, after, rfl, rfl, h⟩
  | maybe p ih =>
    simp only [ends, List.mem_append, List.mem_singleton, ih]
    constructor
    · rintro (⟨m, after, rfl, rfl, h⟩ | rfl)
      · exact ⟨m, after, rfl, rfl, .present h⟩
      · exact ⟨[], rest, by simp, by simp, .absent⟩
    · rintro ⟨m, after, rfl, rfl, h⟩
      cases h with
      | present h => exact .inl ⟨m, after, rfl, rfl, h⟩
      | absent => exact .inr (by simp)
  -- the lemma on runs, with no shorter end given
  | many set =>
    simp only [ends]
    rw [show (placeAfter before rest).before = before.getLast? from rfl,
      show (placeAfter before rest).rest = rest from rfl, mem_runEnds]
    simp only [List.not_mem_nil, false_or]
    constructor
    · rintro ⟨m, after, h, he, hm⟩
      exact ⟨m, after, h, he, .many hm⟩
    · rintro ⟨m, after, h, he, hm⟩
      cases hm with
      | many hm => exact ⟨m, after, h, he, hm⟩

/-- The places onward from a place are the ways to cut what follows it. -/
theorem mem_onward (before rest : List Char) (p : Place) :
    p ∈ Place.onward before.getLast? rest ↔
      ∃ m after, rest = m ++ after ∧ p = placeAfter (before ++ m) after := by
  induction rest generalizing before with
  | nil =>
    simp only [Place.onward, List.mem_singleton]
    constructor
    · rintro rfl
      exact ⟨[], [], by simp [placeAfter]⟩
    · rintro ⟨m, after, h, rfl⟩
      obtain ⟨rfl, rfl⟩ := List.nil_eq_append_iff.1 h
      simp [placeAfter]
  -- the place in front of `c`, or a later one
  | cons c rest ih =>
    have step := ih (before ++ [c])
    rw [List.getLast?_append] at step
    simp only [List.getLast?_singleton, Option.some_or] at step
    simp only [Place.onward, List.mem_cons, step]
    constructor
    · rintro (rfl | ⟨m, after, rfl, rfl⟩)
      · exact ⟨[], c :: rest, by simp [placeAfter]⟩
      · exact ⟨c :: m, after, by simp, by simp⟩
    · rintro ⟨m, after, hsplit, rfl⟩
      cases m with
      | nil =>
        simp only [List.nil_append] at hsplit
        subst hsplit
        exact .inl (by simp [placeAfter])
      | cons d m =>
        simp only [List.cons_append, List.cons.injEq] at hsplit
        obtain ⟨rfl, rfl⟩ := hsplit
        exact .inr ⟨m, after, rfl, by simp⟩

/-- The search finds a pattern exactly where its language has a stretch of the text. -/
theorem occurs_iff (p : Pattern) (text : List Char) : p.occurs text = true ↔ p.Occurs text := by
  have places := mem_onward [] text
  simp only [List.getLast?_nil, List.nil_append] at places
  simp only [occurs, Place.all, List.any_eq_true, places, startsAt, Occurs]
  constructor
  · rintro ⟨_, ⟨before, rest, rfl, rfl⟩, h⟩
    obtain ⟨e, he⟩ := List.exists_mem_of_ne_nil (p.ends (placeAfter before rest)) (by simpa using h)
    -- any end of a match will do
    obtain ⟨m, after, rfl, -, hm⟩ := (mem_ends p before rest e).1 he
    exact ⟨before, m, after, by simp, hm⟩
  · rintro ⟨before, m, after, rfl, hm⟩
    refine ⟨placeAfter before (m ++ after), ⟨before, m ++ after, by simp, rfl⟩, ?_⟩
    have he := (mem_ends p before (m ++ after) (placeAfter (before ++ m) after)).2
      ⟨m, after, rfl, rfl, hm⟩
    cases h : p.ends (placeAfter before (m ++ after)) with
    | nil => rw [h] at he; simp at he
    | cons => rfl

end Pattern

end Rehearsal
