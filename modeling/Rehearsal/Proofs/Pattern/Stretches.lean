import Rehearsal.Pattern.Language
import Rehearsal.Proofs.Pattern.Readings

/-! # Stretches and readings

  What a pattern describes, read off its parts: for each way to build a pattern one equivalence,
  which says when a stretch of a text is described by it. The same for a finder: `Reads` says,
  without reference to any search, that a value stands in a text where the finder looks for one.

  Main statements: `Pattern.Spans.congr`, `Pattern.mem_stretches`, `Finder.mem_readingsAt`.
-/

namespace Rehearsal

open Text

namespace Pattern

variable {p q : Pattern} {set : CharSet} {before m after : List Char}

/-! ## One pattern -/

theorem spans_nothing : Spans .nothing before m after ↔ m = [] := by
  constructor
  · rintro ⟨⟩
    rfl
  · rintro rfl
    exact .nothing

theorem spans_boundary : Spans .boundary before m after ↔
    m = [] ∧ Place.isBoundary before.getLast? after.head? = true := by
  constructor
  · rintro ⟨⟩
    exact ⟨rfl, by assumption⟩
  · rintro ⟨rfl, h⟩
    exact .boundary h

theorem spans_one : Spans (.one set) before m after ↔ ∃ c, m = [c] ∧ set.accepts c = true := by
  constructor
  · intro h
    cases h with
    | one hc => exact ⟨_, rfl, hc⟩
  · rintro ⟨c, rfl, hc⟩
    exact .one hc

theorem spans_seq : Spans (.seq p q) before m after ↔
    ∃ x y, m = x ++ y ∧ Spans p before x (y ++ after) ∧ Spans q (before ++ x) y after := by
  constructor
  · intro h
    cases h with
    | seq hp hq => exact ⟨_, _, rfl, hp, hq⟩
  · rintro ⟨x, y, rfl, hp, hq⟩
    exact .seq hp hq

theorem spans_either :
    Spans (.either p q) before m after ↔ Spans p before m after ∨ Spans q before m after := by
  constructor
  · intro h
    cases h with
    | left h => exact .inl h
    | right h => exact .inr h
  · rintro (h | h)
    · exact .left h
    · exact .right h

theorem spans_maybe : Spans (.maybe p) before m after ↔ Spans p before m after ∨ m = [] := by
  constructor
  · intro h
    cases h with
    | present h => exact .inl h
    | absent => exact .inr rfl
  · rintro (h | rfl)
    · exact .present h
    · exact .absent

theorem spans_many : Spans (.many set) before m after ↔ ∀ c ∈ m, set.accepts c = true := by
  constructor
  · intro h
    cases h with
    | many h => exact h
  · exact .many

/-! ## Patterns in a row -/

theorem inOrder_cons (p : Pattern) (ps : List Pattern) :
    inOrder (p :: ps) = .seq p (inOrder ps) := rfl

theorem spans_inOrder_append {ps qs : List Pattern} : Spans (inOrder (ps ++ qs)) before m after ↔
    ∃ x y, m = x ++ y ∧ Spans (inOrder ps) before x (y ++ after) ∧
      Spans (inOrder qs) (before ++ x) y after := by
  induction ps generalizing before m with
  | nil =>
    constructor
    · intro h
      exact ⟨[], m, rfl, .nothing, by rwa [List.append_nil]⟩
    · rintro ⟨_, y, rfl, hx, hy⟩
      obtain rfl := spans_nothing.1 hx
      rwa [List.append_nil] at hy
  | cons p ps ih =>
    simp only [List.cons_append, inOrder_cons, spans_seq, ih]
    constructor
    -- only the brackets between the three parts move
    · rintro ⟨u, _, rfl, hu, x, y, rfl, hx, hy⟩
      rw [List.append_assoc] at hu hy
      exact ⟨u ++ x, y, by rw [List.append_assoc], ⟨u, x, rfl, hu, hx⟩, hy⟩
    · rintro ⟨_, y, rfl, ⟨u, x, rfl, hu, hx⟩, hy⟩
      rw [← List.append_assoc] at hu hy
      exact ⟨u, x ++ y, by rw [List.append_assoc], hu, x, y, rfl, hx, hy⟩

theorem spans_oneOf {ps : List Pattern} (hne : ps ≠ []) :
    Spans (oneOf ps) before m after ↔ ∃ p ∈ ps, Spans p before m after := by
  fun_induction oneOf ps with
  | case1 => exact absurd rfl hne
  | case2 p => simp
  | case3 p q ps ih =>
    rw [spans_either, ih (List.cons_ne_nil q ps)]
    exact (List.exists_mem_cons_iff (·.Spans before m after) p (q :: ps)).symm

/-- One character for each entry of a list, told apart by a function of the characters. -/
theorem spans_row {α : Type} {f : α → CharSet} {g : Char → α}
    (hfg : ∀ x c, (f x).accepts c = true ↔ g c = x) {xs : List α} :
    Spans (inOrder (xs.map fun x => .one (f x))) before m after ↔ m.map g = xs := by
  induction xs generalizing before m with
  | nil => simpa [inOrder] using spans_nothing
  | cons x xs ih =>
    simp only [List.map_cons, inOrder, spans_seq, spans_one, ih, hfg, List.map_eq_cons_iff]
    constructor
    · rintro ⟨_, y, rfl, ⟨c, rfl, hc⟩, hy⟩
      exact ⟨c, y, rfl, hc, hy⟩
    · rintro ⟨c, y, rfl, hc, hy⟩
      exact ⟨[c], y, rfl, ⟨c, rfl, hc⟩, hy⟩

theorem spans_exactly {text : String} : Spans (exactly text) before m after ↔ m = text.toList := by
  rw [exactly, spans_row fun _ _ => beq_iff_eq, List.map_id']

theorem spans_folded {word : String} :
    Spans (folded word) before m after ↔ m.map foldLetter = word.toList := by
  rw [folded, spans_row fun _ _ => beq_iff_eq]

theorem spans_gap : Spans gap before m after ↔ m ≠ [] ∧ ∀ c ∈ m, isBlank c = true := by
  simp only [gap, spans_seq, spans_one, spans_many]
  constructor
  · rintro ⟨_, y, rfl, ⟨c, rfl, hc⟩, hy⟩
    exact ⟨List.cons_ne_nil c y, List.forall_mem_cons.2 ⟨hc, hy⟩⟩
  · rintro ⟨hne, hm⟩
    obtain ⟨c, y, rfl⟩ := List.exists_cons_of_ne_nil hne
    exact ⟨[c], y, rfl, ⟨c, rfl, (List.forall_mem_cons.1 hm).1⟩, (List.forall_mem_cons.1 hm).2⟩

theorem spans_digit : Spans digit before m after ↔ ∃ c, m = [c] ∧ isDecimalDigit c = true :=
  spans_one

theorem spans_upToThreeDigits : Spans upToThreeDigits before m after ↔
    1 ≤ m.length ∧ m.length ≤ 3 ∧ ∀ c ∈ m, isDecimalDigit c = true := by
  simp only [upToThreeDigits, spans_seq, spans_maybe, spans_digit]
  constructor
  · rintro ⟨_, _, rfl, ⟨c, rfl, hc⟩, ⟨_, _, rfl, ⟨d, rfl, hd⟩, ⟨e, rfl, he⟩ | rfl⟩ | rfl⟩
    · simp [hc, hd, he]
    · simp [hc, hd]
    · simp [hc]
  · rintro ⟨hpos, hle, hm⟩
    -- each further digit is the part that may be missing
    match m with
    | [c] =>
      simp only [List.forall_mem_singleton] at hm
      exact ⟨[c], [], rfl, ⟨c, rfl, hm⟩, .inr rfl⟩
    | [c, d] =>
      simp only [List.forall_mem_cons] at hm
      exact ⟨[c], [d], rfl, ⟨c, rfl, hm.1⟩, .inl ⟨[d], [], rfl, ⟨d, rfl, hm.2.1⟩, .inr rfl⟩⟩
    | [c, d, e] =>
      simp only [List.forall_mem_cons] at hm
      exact ⟨[c], [d, e], rfl, ⟨c, rfl, hm.1⟩,
        .inl ⟨[d], [e], rfl, ⟨d, rfl, hm.2.1⟩, .inl ⟨e, rfl, hm.2.2.1⟩⟩⟩

theorem spans_twoOrThreeDigits : Spans twoOrThreeDigits before m after ↔
    2 ≤ m.length ∧ m.length ≤ 3 ∧ ∀ c ∈ m, isDecimalDigit c = true := by
  simp only [twoOrThreeDigits, inOrder, spans_seq, spans_maybe, spans_digit, spans_nothing]
  constructor
  · rintro ⟨_, _, rfl, ⟨c, rfl, hc⟩, _, _, rfl, ⟨d, rfl, hd⟩, _, _, rfl, ⟨e, rfl, he⟩ | rfl, rfl⟩
    · simp [hc, hd, he]
    · simp [hc, hd]
  · rintro ⟨htwo, hle, hm⟩
    match m with
    | [c, d] =>
      simp only [List.forall_mem_cons] at hm
      exact ⟨[c], [d], rfl, ⟨c, rfl, hm.1⟩, [d], [], rfl, ⟨d, rfl, hm.2.1⟩, [], [], rfl, .inr rfl,
        rfl⟩
    | [c, d, e] =>
      simp only [List.forall_mem_cons] at hm
      exact ⟨[c], [d, e], rfl, ⟨c, rfl, hm.1⟩, [d], [e], rfl, ⟨d, rfl, hm.2.1⟩, [e], [], rfl,
        .inl ⟨e, rfl, hm.2.2.1⟩, rfl⟩

/-! ## In a longer text -/

theorem any_head?_append {after' : List Char}
    (h : after.head?.any isWord = after'.head?.any isWord) (m : List Char) :
    (m ++ after).head?.any isWord = (m ++ after').head?.any isWord := by
  cases m with
  | nil => exact h
  | cons c m => rfl

theorem any_getLast?_append {before' : List Char}
    (h : before.getLast?.any isWord = before'.getLast?.any isWord) (m : List Char) :
    (before ++ m).getLast?.any isWord = (before' ++ m).getLast?.any isWord := by
  rw [List.getLast?_append, List.getLast?_append]
  cases m.getLast? with
  | none => exact h
  | some c => rfl

/-- Of what surrounds a stretch it only matters whether the characters next to it belong to
    words. -/
theorem Spans.congr {before' after' : List Char} (h : p.Spans before m after)
    (hbefore : before.getLast?.any isWord = before'.getLast?.any isWord)
    (hafter : after.head?.any isWord = after'.head?.any isWord) : p.Spans before' m after' := by
  induction h generalizing before' after' with
  | nothing => exact .nothing
  | boundary hb =>
    -- the only pattern that looks at its surroundings
    apply Spans.boundary
    unfold Place.isBoundary at hb ⊢
    rwa [← hbefore, ← hafter]
  | one hc => exact .one hc
  | @seq p q before m n after hp hq ihp ihq =>
    apply Spans.seq
    · exact ihp hbefore (any_head?_append hafter n)
    · exact ihq (any_getLast?_append hbefore m) hafter
  | left h ih => exact .left (ih hbefore hafter)
  | right h ih => exact .right (ih hbefore hafter)
  | present h ih => exact .present (ih hbefore hafter)
  | absent => exact .absent
  | many hm => exact .many hm

variable {text more : List Char}

/-- What occurs in a text still occurs if the text goes on, but not with a word character. -/
theorem Occurs.append_right (h : p.Occurs text) (hmore : more.head?.any isWord = false) :
    p.Occurs (text ++ more) := by
  obtain ⟨before, m, after, rfl, hspans⟩ := h
  have hafter : after.head?.any isWord = (after ++ more).head?.any isWord := by
    have hnil : ([] : List Char).head?.any isWord = more.head?.any isWord := hmore.symm
    have hrest := any_head?_append hnil after
    rwa [List.append_nil] at hrest
  exact ⟨before, m, after ++ more, by rw [List.append_assoc], hspans.congr rfl hafter⟩

/-- What occurs in a text still occurs if something comes first that does not end with a word
    character. -/
theorem Occurs.append_left (h : p.Occurs text) (hmore : more.getLast?.any isWord = false) :
    p.Occurs (more ++ text) := by
  obtain ⟨before, m, after, rfl, hspans⟩ := h
  have hbefore : before.getLast?.any isWord = (more ++ before).getLast?.any isWord := by
    have hnil : ([] : List Char).getLast?.any isWord = more.getLast?.any isWord := hmore.symm
    have hfront := any_getLast?_append hnil before
    rwa [List.nil_append] at hfront
  exact ⟨more ++ before, m, after, by simp only [List.append_assoc], hspans.congr hbefore rfl⟩

/-! ## All stretches -/

/-- All stretches of a text that the pattern describes. -/
def stretches (p : Pattern) (text : List Char) : List (List Char) :=
  (Place.all text).flatMap fun start => (p.ends start).map start.upTo

theorem mem_stretches {text : List Char} : m ∈ p.stretches text ↔
    ∃ before after, text = before ++ m ++ after ∧ p.Spans before m after := by
  have places := mem_onward [] text
  simp only [List.getLast?_nil, List.nil_append] at places
  simp only [stretches, Place.all, List.mem_flatMap, List.mem_map, places]
  constructor
  · rintro ⟨_, ⟨before, rest, rfl, rfl⟩, e, he, rfl⟩
    -- from where the match begins to where it ends lies just `m`
    obtain ⟨m, after, rfl, rfl, hm⟩ := (mem_ends p before rest e).1 he
    have hm' : (placeAfter before (m ++ after)).upTo (placeAfter (before ++ m) after) = m :=
      Finder.upTo_eq rfl
    rw [hm']
    exact ⟨before, after, by rw [List.append_assoc], hm⟩
  · rintro ⟨before, after, rfl, hm⟩
    refine ⟨placeAfter before (m ++ after), ⟨before, m ++ after, by rw [List.append_assoc], rfl⟩,
      placeAfter (before ++ m) after, ?_, Finder.upTo_eq rfl⟩
    exact (mem_ends p before (m ++ after) _).2 ⟨m, after, rfl, rfl, hm⟩

theorem forall_parts {text : List Char} {check : List Char → Bool}
    (h : ((p.stretches text).all fun m => (m.tails.flatMap List.inits).all check) = true) :
    ∀ before m after d, text = before ++ m ++ after → p.Spans before m after → d <:+: m →
      check d = true := by
  intro before m after d hsplit hspans hd
  obtain ⟨tail, hprefix, hsuffix⟩ := List.infix_iff_prefix_suffix.1 hd
  have hm : m ∈ p.stretches text := mem_stretches.2 ⟨before, after, hsplit, hspans⟩
  have hpart : d ∈ m.tails.flatMap List.inits :=
    List.mem_flatMap.2 ⟨tail, (List.mem_tails _ _).2 hsuffix, (List.mem_inits _ _).2 hprefix⟩
  exact List.all_eq_true.1 (List.all_eq_true.1 h m hm) d hpart

end Pattern

/-! ## Readings -/

namespace Finder

open Pattern

variable {f : Finder} {before rest value : List Char}

/-- The finder reads the value from the place between `before` and `rest`: there the lead begins,
    after it comes the value, and after that the tail. -/
def ReadsAt (f : Finder) (before rest value : List Char) : Prop :=
  ∃ lead tail back, rest = lead ++ (value ++ (tail ++ back)) ∧
    f.lead.Spans before lead (value ++ (tail ++ back)) ∧
    f.value.Spans (before ++ lead) value (tail ++ back) ∧
    f.tail.Spans (before ++ lead ++ value) tail back

theorem mem_readingsAt :
    value ∈ f.readingsAt (placeAfter before rest) ↔ f.ReadsAt before rest value := by
  simp only [readingsAt, List.mem_flatMap, List.mem_map, ReadsAt, mem_ends]
  constructor
  · rintro ⟨_, ⟨lead, _, rfl, rfl, hlead⟩, stop, hstop, e, he, rfl⟩
    -- from the end of the lead to the end of the value lies just the value
    obtain ⟨value, _, rfl, rfl, hvalue⟩ := (mem_ends f.value _ _ stop).1 hstop
    obtain ⟨tail, back, rfl, -, htail⟩ := (mem_ends f.tail _ _ e).1 he
    have hupTo : (placeAfter (before ++ lead) (value ++ (tail ++ back))).upTo
        (placeAfter (before ++ lead ++ value) (tail ++ back)) = value := upTo_eq rfl
    rw [hupTo]
    exact ⟨lead, tail, back, rfl, hlead, hvalue, htail⟩
  · rintro ⟨lead, tail, back, rfl, hlead, hvalue, htail⟩
    refine ⟨_, ⟨lead, _, rfl, rfl, hlead⟩, _, (mem_ends _ _ _ _).2 ⟨value, _, rfl, rfl, hvalue⟩, _,
      (mem_ends _ _ _ _).2 ⟨tail, back, rfl, rfl, htail⟩, upTo_eq rfl⟩

/-- If only one value can be read from a place, it is what is found there. -/
theorem valueAt_eq_of_readsAt {only : Option (List Char)}
    (h : ∀ value, f.ReadsAt before rest value ↔ only = some value) :
    f.valueAt (placeAfter before rest) = only := by
  simp only [← mem_readingsAt] at h
  rw [valueAt_eq]
  -- only the first reading counts, and all of them are that one
  cases hreadings : f.readingsAt (placeAfter before rest) with
  | nil =>
    refine (Option.eq_none_iff_forall_ne_some.2 ?_).symm
    intro value hvalue
    rw [← h, hreadings] at hvalue
    exact List.not_mem_nil hvalue
  | cons value values =>
    refine ((h value).1 ?_).symm
    rw [hreadings]
    exact List.mem_cons_self

end Finder

end Rehearsal
