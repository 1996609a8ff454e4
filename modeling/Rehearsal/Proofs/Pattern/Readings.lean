import Rehearsal.Proofs.Pattern.Respelling
import Rehearsal.Text.Pieces

/-! # What a finder reads from respelled texts

  A finder is compared with itself on a text and a respelled one by all its `readings`, the
  values of all matches in order of preference; the value that it finds is the first of them.
  Readings from places that are alive are compared by `Pattern.ends_same`, and there are none
  from dead places.

  Main statement: `find?_respelled`.
-/

namespace Rehearsal

open Text

namespace Finder

open Place

variable {f : Finder} {p q : Place} {xs ys : List Char}

def whole (f : Finder) : Pattern := .seq f.lead (.seq f.value f.tail)

/-- Whether the finder looks at traits only, never ends at a dead place and finds nothing where
    white space begins outside of words. -/
def byTraits (f : Finder) : Bool := f.whole.byTraits && f.whole.lands && f.whole.skipsBlanks

/-- The values of all matches that begin at a place, the preferred one first. -/
def readingsAt (f : Finder) (p : Place) : List (List Char) :=
  (f.lead.ends p).flatMap fun start =>
    (f.value.ends start).flatMap fun stop => (f.tail.ends stop).map fun _ => start.upTo stop

/-- The values of all matches in a text, the preferred one first. -/
def readings (f : Finder) (text : List Char) : List (List Char) :=
  (Place.all text).flatMap f.readingsAt

theorem valueAt_eq (f : Finder) (p : Place) : f.valueAt p = (f.readingsAt p).head? := by
  unfold valueAt readingsAt
  rw [List.head?_flatMap]
  congr 1
  funext start
  rw [List.head?_flatMap]
  congr 1
  funext stop
  unfold Pattern.startsAt
  -- that the tail matches is asked; how often does not matter for the first reading
  cases f.tail.ends stop with
  | nil => rfl
  | cons e es => rfl

theorem find?_eq (f : Finder) (text : List Char) : f.find? text = (f.readings text).head? := by
  unfold find? readings
  rw [List.head?_flatMap]
  congr 1
  funext p
  exact f.valueAt_eq p

theorem upTo_eq {p e : Place} {m : List Char} (h : p.rest = m ++ e.rest) : p.upTo e = m := by
  unfold Place.upTo
  rw [h, List.length_append, Nat.add_sub_cancel, List.take_left]

/-- Every match ends at a place that is alive, if the pattern lands. -/
theorem readingsAt_eq (h : f.whole.lands = true) (p : Place) :
    f.readingsAt p = (f.lead.ends p).flatMap fun start => (f.value.ends start).flatMap fun stop =>
      ((f.tail.ends stop).filter alive).map fun _ => start.upTo stop := by
  unfold readingsAt
  -- the ends of the tail are ends of the whole pattern, and the whole pattern lands
  refine List.flatMap_congr fun start hstart => List.flatMap_congr fun stop hstop => ?_
  rw [List.filter_eq_self.2]
  intro e he
  have hmem : e ∈ f.whole.ends p :=
    List.mem_flatMap.2 ⟨start, hstart, List.mem_flatMap.2 ⟨stop, hstop, he⟩⟩
  rw [alive, Pattern.not_dead_of_lands h hmem]
  rfl

theorem readingsAt_eq_nil (h : f.whole.ends p = []) : f.readingsAt p = [] := by
  simp only [whole, Pattern.ends, List.flatMap_eq_nil_iff] at h
  simp only [readingsAt, List.flatMap_eq_nil_iff, List.map_eq_nil_iff]
  exact h

/-- The readings of a place, as the traits of their characters. -/
def traitsAt (f : Finder) (p : Place) : List (List Traits) :=
  (f.readingsAt p).map (List.map traits)

/-- A place that is dead has no readings: what is matched from it would end at a dead place. -/
theorem traitsAt_of_dead (h : f.byTraits = true) (hdead : p.dead = true) : f.traitsAt p = [] := by
  rw [byTraits, Bool.and_eq_true, Bool.and_eq_true] at h
  obtain ⟨⟨htraits, hlands⟩, -⟩ := h
  have hnil : f.whole.ends p = [] := by
    rw [List.eq_nil_iff_forall_not_mem]
    intro e he
    have halive := Pattern.not_dead_of_lands hlands he
    rw [Pattern.dead_ends htraits hdead he] at halive
    cases halive
  rw [traitsAt, readingsAt_eq_nil hnil, List.map_nil]

/-- The same places have the same readings. -/
theorem traitsAt_same (h : f.byTraits = true) (same : Same p q) : f.traitsAt p = f.traitsAt q := by
  rw [byTraits, Bool.and_eq_true, Bool.and_eq_true] at h
  obtain ⟨⟨htraits, hlands⟩, -⟩ := h
  simp only [whole, Pattern.byTraits, Bool.and_eq_true] at htraits
  obtain ⟨hlead, hvalue, htail⟩ := htraits
  have hnothing : ∀ stop : Place, stop.dead = true → (f.tail.ends stop).filter alive = [] :=
    fun stop hdead => Agree.filter_alive_of_dead fun e he => Pattern.dead_ends htail hdead he
  have hstop : ∀ start : Place, ∀ stop : Place, stop.dead = true →
      ((f.tail.ends stop).filter alive).map (fun _ => (start.upTo stop).map traits) = [] := by
    intro start stop hdead
    rw [hnothing stop hdead, List.map_nil]
  have hstart : ∀ start : Place, start.dead = true → ((f.value.ends start).flatMap fun stop =>
      ((f.tail.ends stop).filter alive).map fun _ => (start.upTo stop).map traits) = [] := by
    intro start hdead
    rw [List.flatMap_eq_nil_iff]
    exact fun stop hmem => hstop start stop (Pattern.dead_ends hvalue hdead hmem)
  simp only [traitsAt, readingsAt_eq hlands, List.map_flatMap, List.map_map]
  refine (Pattern.ends_same hlead same).flatMap_eq hstart hstart ?_
  intro start start' reads
  refine (Pattern.ends_same hvalue reads.same).flatMap_eq (hstop start) (hstop start') ?_
  intro stop stop' reads
  -- as many matches of the tail, and the same stretch before them
  obtain ⟨m, n, hm, hn, hmn⟩ := reads.stretch
  have hlength := (Pattern.ends_same htail reads.same).length_eq
  show ((f.tail.ends stop).filter alive).map (fun _ => (start.upTo stop).map traits) =
    ((f.tail.ends stop').filter alive).map fun _ => (start'.upTo stop').map traits
  rw [upTo_eq hm, upTo_eq hn, hmn, List.map_const', List.map_const', hlength]

/-! ### Texts -/

/-- Behind white space at the end of a text all places are dead. -/
theorem dead_of_mem_onward {c : Char} (hc : isBlank c = true) (hxs : ∀ d ∈ xs, isBlank d = true) :
    ∀ e ∈ onward (some c) xs, e.dead = true := by
  induction xs generalizing c with
  | nil =>
    intro e he
    rw [List.mem_singleton.1 he]
    exact dead_of_blank hc rfl
  -- each further place has white space in front and behind
  | cons d xs ih =>
    intro e he
    rcases List.mem_cons.1 he with rfl | he
    · exact dead_of_blank hc (List.all_eq_true.2 hxs)
    · refine ih (hxs d List.mem_cons_self) ?_ e he
      exact fun d' hd' => hxs d' (List.mem_cons_of_mem d hd')

/-- In white space at the end of a text, only the first place may be alive. -/
theorem onward_of_blank (hxs : ∀ c ∈ xs, isBlank c = true) (b : Option Char) :
    ∃ later, (∀ e ∈ later, e.dead = true) ∧ onward b xs = ⟨b, xs⟩ :: later := by
  cases xs with
  | nil => exact ⟨[], fun e he => absurd he List.not_mem_nil, rfl⟩
  | cons c xs =>
    refine ⟨onward (some c) xs, dead_of_mem_onward (hxs c List.mem_cons_self) ?_, rfl⟩
    exact fun d hd => hxs d (List.mem_cons_of_mem c hd)

/-- The places of a respelled text agree. -/
theorem onward_same (h : Respelled xs ys) {b b' : Option Char} (same : Same ⟨b, xs⟩ ⟨b', ys⟩) :
    Agree Same (onward b xs) (onward b' ys) := by
  induction h generalizing b b' with
  | blanks hxs hys =>
    obtain ⟨later, hlater, honward⟩ := onward_of_blank hxs b
    obtain ⟨later', hlater', honward'⟩ := onward_of_blank hys b'
    rw [honward, honward']
    exact .cons same same (.of_dead hlater hlater')
  | cons hcd h ih => exact .cons same same (ih (same_of_traits hcd h))
  | dotted h ih =>
    -- the place between the `i` and its dot has no counterpart
    exact .cons same same (.cons_dead (dead_between _) (ih (same_of_dotted h)))

/-- White space in front of a text holds no readings. -/
theorem traits_trimStart (h : f.byTraits = true) (xs : List Char) {b : Option Char}
    (hb : b.any isWord = false) :
    ∃ b', b'.any isWord = false ∧
      (onward b xs).flatMap f.traitsAt = (onward b' (trimStart xs)).flatMap f.traitsAt := by
  rw [byTraits, Bool.and_eq_true] at h
  -- the character before the place changes from step to step, but it never belongs to a word
  induction xs generalizing b with
  | nil => exact ⟨b, hb, rfl⟩
  | cons c xs ih =>
    by_cases hc : isBlank c = true
    · obtain ⟨b', hb', hrest⟩ := ih (b := some c) (not_isWord_of_isBlank hc)
      refine ⟨b', hb', ?_⟩
      have hends : f.whole.ends ⟨b, c :: xs⟩ = [] :=
        Pattern.ends_eq_nil_of_skipsBlanks h.2 hb hc
      have hnil : f.traitsAt ⟨b, c :: xs⟩ = [] := by
        rw [traitsAt, readingsAt_eq_nil hends, List.map_nil]
      rw [trimStart, List.dropWhile_cons_of_pos hc, onward, List.flatMap_cons, hnil,
        List.nil_append, hrest]
      rfl
    · refine ⟨b, hb, ?_⟩
      rw [trimStart, List.dropWhile_cons_of_neg hc]

/-- **Spelling does not matter**: a finder that looks at traits finds a value in a text exactly
    if it finds one in a respelled text, and the two values agree character by character. White
    space in front of the text does not matter either. -/
theorem find?_respelled (h : f.byTraits = true) (hxy : Respelled (trimStart xs) ys) :
    (f.find? xs).map (List.map traits) = (f.find? ys).map (List.map traits) := by
  have hreadings : (f.readings xs).map (List.map traits) =
      (f.readings ys).map (List.map traits) := by
    rw [readings, readings, List.map_flatMap, List.map_flatMap]
    -- first the white space in front, then the rest place by place
    obtain ⟨b, hb, htrim⟩ := traits_trimStart h xs (b := none) rfl
    have same : Same ⟨b, trimStart xs⟩ ⟨none, ys⟩ :=
      ⟨hb, not_afterI_of_not_word hb, hxy⟩
    refine htrim.trans ((onward_same hxy same).flatMap_eq ?_ ?_ ?_)
    · exact fun p hdead => traitsAt_of_dead h hdead
    · exact fun p hdead => traitsAt_of_dead h hdead
    · exact fun p q same => traitsAt_same h same
  rw [find?_eq, find?_eq, ← List.head?_map, ← List.head?_map, hreadings]

end Finder

end Rehearsal
