import Rehearsal.Proofs.Pattern.DeadPlaces

/-! # Texts that a pattern cannot tell apart

  A text is `Respelled` as another one if characters are replaced by others of the same traits,
  U+0130 is written out as two characters, and white space at the end comes or goes. A pattern
  that looks at traits only matches the same stretches of both.

  The search does not take the same steps in both texts, because each has places that the other
  does not have. These places are dead, and `Agree` compares only those that are alive.

  Main statement: `ends_same`.
-/

namespace Rehearsal

open Text

/-- The second text is the first one in another spelling. -/
inductive Respelled : List Char → List Char → Prop where
  /-- White space at the end is as good as none. -/
  | blanks {xs ys : List Char} : (∀ c ∈ xs, isBlank c = true) → (∀ c ∈ ys, isBlank c = true) →
      Respelled xs ys
  /-- A character may be replaced by one with the same traits. -/
  | cons {c d : Char} {xs ys : List Char} : traits c = traits d → Respelled xs ys →
      Respelled (c :: xs) (d :: ys)
  /-- The capital with a dot may be written as a letter and a dot. -/
  | dotted {xs ys : List Char} : Respelled xs ys →
      Respelled ('\u0130' :: xs) ('i' :: '\u0307' :: ys)

namespace Respelled

variable {xs ys : List Char}

theorem all_isBlank (h : Respelled xs ys) : xs.all isBlank = ys.all isBlank := by
  induction h with
  | blanks hxs hys => rw [List.all_eq_true.2 hxs, List.all_eq_true.2 hys]
  | @cons c d _ _ hcd _ ih =>
    rw [List.all_cons, List.all_cons, ih, show isBlank c = isBlank d from congrArg Traits.blank hcd]
  | dotted _ _ =>
    rw [List.all_cons, List.all_cons, show isBlank '\u0130' = false by decide,
      show isBlank 'i' = false by decide]
    rfl

/-- What is asked about the first character, and does not hold of white space, is the same. -/
theorem head_any {t : Char → Bool} (h : Respelled xs ys)
    (hblank : ∀ c, isBlank c = true → t c = false)
    (htraits : ∀ c d, traits c = traits d → t c = t d) (hdotted : t '\u0130' = t 'i') :
    xs.head?.any t = ys.head?.any t := by
  have hnone : ∀ zs : List Char, (∀ c ∈ zs, isBlank c = true) → zs.head?.any t = false := by
    intro zs hzs
    cases zs with
    | nil => rfl
    | cons c zs => exact hblank c (hzs c List.mem_cons_self)
  cases h with
  | blanks hxs hys => rw [hnone xs hxs, hnone ys hys]
  | cons hcd _ => exact htraits _ _ hcd
  | dotted _ => exact hdotted

end Respelled

/-! ## The same places -/

namespace Place

/-- The two places are the same to a finder. -/
structure Same (p q : Place) : Prop where
  /-- Both follow a word character, or neither does. -/
  word : p.before.any isWord = q.before.any isWord
  /-- Both follow an `i`, or neither does. -/
  afterI : p.afterI = q.afterI
  /-- What is to come is the same but for its spelling. -/
  rest : Respelled p.rest q.rest

/-- Between `p` and `e` the same is read as between `q` and `f`, and the places are the same
    again. -/
structure Reads (p q e f : Place) : Prop where
  /-- The two stretches agree character by character. -/
  stretch : ∃ m n, p.rest = m ++ e.rest ∧ q.rest = n ++ f.rest ∧ m.map traits = n.map traits
  same : Same e f

variable {p q e f : Place}

theorem Reads.refl (same : Same p q) : Reads p q p q := ⟨⟨[], [], rfl, rfl, rfl⟩, same⟩

theorem Reads.trans {g h : Place} (first : Reads p q e f) (second : Reads e f g h) :
    Reads p q g h := by
  obtain ⟨m, n, hm, hn, hmn⟩ := first.stretch
  obtain ⟨m', n', hm', hn', hmn'⟩ := second.stretch
  refine ⟨⟨m ++ m', n ++ n', ?_, ?_, ?_⟩, second.same⟩
  · rw [hm, hm', List.append_assoc]
  · rw [hn, hn', List.append_assoc]
  · rw [List.map_append, List.map_append, hmn, hmn']

theorem Same.dead_eq (same : Same p q) : p.dead = q.dead := by
  have hhead : p.rest.head?.any (fun c => (traits c).dot) =
      q.rest.head?.any fun c => (traits c).dot := by
    refine same.rest.head_any ?_ (fun c d h => congrArg Traits.dot h) (by decide)
    intro c hc
    rw [← Bool.not_eq_true]
    intro hdot
    obtain rfl : c = '\u0307' := beq_iff_eq.1 hdot
    cases hc
  unfold dead spent split
  rw [same.word, same.rest.all_isBlank, same.afterI, hhead]

theorem Same.isBoundary_eq (same : Same p q) :
    isBoundary p.before p.rest.head? = isBoundary q.before q.rest.head? := by
  have hhead : p.rest.head?.any isWord = q.rest.head?.any isWord :=
    same.rest.head_any (fun c hc => not_isWord_of_isBlank hc) (fun c d h => congrArg Traits.word h)
      (by decide +kernel)
  unfold isBoundary
  rw [same.word, hhead]

theorem same_of_traits {c d : Char} {xs ys : List Char} (hcd : traits c = traits d)
    (h : Respelled xs ys) : Same ⟨some c, xs⟩ ⟨some d, ys⟩ := by
  refine ⟨congrArg Traits.word hcd, ?_, h⟩
  show ((traits c).folded == some 'i') = ((traits d).folded == some 'i')
  rw [hcd]

/-- Behind the dot the same is to come as behind the capital with a dot. -/
theorem same_of_dotted {xs ys : List Char} (h : Respelled xs ys) :
    Same ⟨some '\u0130', xs⟩ ⟨some '\u0307', ys⟩ := by
  refine ⟨?_, ?_, h⟩
  · show isWord '\u0130' = isWord '\u0307'
    decide +kernel
  · show ((traits '\u0130').folded == some 'i') = ((traits '\u0307').folded == some 'i')
    decide

theorem Reads.step {b b' : Option Char} {c d : Char} {xs ys : List Char}
    (reads : Reads p q ⟨b, c :: xs⟩ ⟨b', d :: ys⟩) (hcd : traits c = traits d)
    (h : Respelled xs ys) : Reads p q ⟨some c, xs⟩ ⟨some d, ys⟩ := by
  refine reads.trans ⟨⟨[c], [d], rfl, rfl, ?_⟩, same_of_traits hcd h⟩
  rw [List.map_singleton, List.map_singleton, hcd]

end Place

/-! ## Lists of places -/

/-- The places of the two lists that are alive are related one by one. -/
def Agree (R : Place → Place → Prop) (es fs : List Place) : Prop :=
  List.Forall₂ R (es.filter Place.alive) (fs.filter Place.alive)

namespace Agree

open Place

variable {R S : Place → Place → Prop} {p q e f : Place} {es fs es' fs' : List Place}

theorem nil : Agree R [] [] := List.Forall₂.nil

theorem filter_alive_of_dead (hes : ∀ e ∈ es, e.dead = true) : es.filter alive = [] := by
  rw [List.filter_eq_nil_iff]
  intro e he
  rw [alive, hes e he]
  exact Bool.false_ne_true

theorem of_dead (hes : ∀ e ∈ es, e.dead = true) (hfs : ∀ f ∈ fs, f.dead = true) :
    Agree R es fs := by
  unfold Agree
  rw [filter_alive_of_dead hes, filter_alive_of_dead hfs]
  exact .nil

theorem append (h : Agree R es fs) (h' : Agree R es' fs') : Agree R (es ++ es') (fs ++ fs') := by
  unfold Agree
  rw [List.filter_append, List.filter_append]
  exact List.rel_append h h'

theorem cons (hef : R e f) (same : Same e f) (h : Agree R es fs) : Agree R (e :: es) (f :: fs) := by
  unfold Agree
  have halive : e.alive = f.alive := congrArg not same.dead_eq
  by_cases hf : f.alive = true
  · rw [List.filter_cons_of_pos (halive.trans hf), List.filter_cons_of_pos hf]
    exact .cons hef h
  · rw [List.filter_cons_of_neg (halive ▸ hf), List.filter_cons_of_neg hf]
    exact h

theorem cons_dead (hf : f.dead = true) (h : Agree R es fs) : Agree R es (f :: fs) := by
  unfold Agree
  rw [List.filter_cons_of_neg (by rw [alive, hf]; exact Bool.false_ne_true)]
  exact h

/-- If nothing follows from dead places, only those that are alive count. -/
theorem flatMap_filter_alive {α : Type} {g : Place → List α} (hg : ∀ e, e.dead = true → g e = [])
    (es : List Place) : es.flatMap g = (es.filter alive).flatMap g := by
  induction es with
  | nil => rfl
  | cons e es ih =>
    rw [List.flatMap_cons, ih]
    by_cases he : e.alive = true
    · rw [List.filter_cons_of_pos he, List.flatMap_cons]
    · have hdead := alive_eq_false.1 ((Bool.not_eq_true _).mp he)
      rw [List.filter_cons_of_neg he, hg e hdead, List.nil_append]

/-- If what follows dead places is dead, only what follows places that are alive counts. -/
theorem flatMap {g h : Place → List Place} (hes : Agree R es fs)
    (hg : ∀ e, e.dead = true → ∀ e' ∈ g e, e'.dead = true)
    (hh : ∀ f, f.dead = true → ∀ f' ∈ h f, f'.dead = true)
    (hstep : ∀ e f, R e f → Agree S (g e) (h f)) : Agree S (es.flatMap g) (fs.flatMap h) := by
  have hg : ∀ e, e.dead = true → (g e).filter alive = [] :=
    fun e hdead => filter_alive_of_dead (hg e hdead)
  have hh : ∀ f, f.dead = true → (h f).filter alive = [] :=
    fun f hdead => filter_alive_of_dead (hh f hdead)
  unfold Agree
  rw [List.filter_flatMap, List.filter_flatMap, flatMap_filter_alive hg, flatMap_filter_alive hh]
  exact List.rel_flatMap hes fun e f hef => hstep e f hef

/-- If nothing follows from dead places and the same from related ones, the same follows from
    both lists. -/
theorem flatMap_eq {α : Type} {g h : Place → List α} (hes : Agree R es fs)
    (hg : ∀ e, e.dead = true → g e = []) (hh : ∀ f, f.dead = true → h f = [])
    (hstep : ∀ e f, R e f → g e = h f) : es.flatMap g = fs.flatMap h := by
  rw [flatMap_filter_alive hg, flatMap_filter_alive hh]
  refine List.forall₂_eq_eq_eq ▸ List.rel_flatMap hes ?_
  intro e f hef
  rw [hstep e f hef]
  exact List.forall₂_refl _

theorem trans (reads : Reads p q e f) (h : Agree (Reads e f) es fs) : Agree (Reads p q) es fs :=
  h.imp fun _ _ h => reads.trans h

end Agree

/-! ## The ends of a match -/

namespace Pattern

open Place

variable {pattern : Pattern} {p q : Place}

/-- In white space at the end, only the first place of a run may be alive. -/
theorem runEnds_of_blank {xs : List Char} (hxs : ∀ c ∈ xs, isBlank c = true) (b : Option Char)
    (es : List Place) :
    ∃ longer, (∀ e ∈ longer, e.dead = true) ∧
      runEnds .blank es b xs = longer ++ ⟨b, xs⟩ :: es := by
  induction xs generalizing b es with
  | nil => exact ⟨[], fun e he => absurd he List.not_mem_nil, rfl⟩
  | cons c xs ih =>
    have hc : isBlank c = true := hxs c List.mem_cons_self
    have hrest : ∀ d ∈ xs, isBlank d = true := fun d hd => hxs d (List.mem_cons_of_mem c hd)
    obtain ⟨longer, hlonger, hruns⟩ := ih hrest (some c) (⟨b, c :: xs⟩ :: es)
    refine ⟨longer ++ [⟨some c, xs⟩], ?_, ?_⟩
    · intro e he
      rcases List.mem_append.1 he with he | he
      · exact hlonger e he
      · rw [List.mem_singleton.1 he]
        exact dead_of_blank hc (List.all_eq_true.2 hrest)
    · rw [runEnds, if_pos (show CharSet.blank.accepts c = true from hc), hruns, List.append_assoc]
      rfl

/-- Runs of white space end at the same places. -/
theorem runEnds_same {xs ys : List Char} (h : Respelled xs ys) {b b' : Option Char}
    (reads : Reads p q ⟨b, xs⟩ ⟨b', ys⟩) {es fs : List Place} (hes : Agree (Reads p q) es fs) :
    Agree (Reads p q) (runEnds .blank es b xs) (runEnds .blank fs b' ys) := by
  -- by induction on the spelling; the ends found so far are carried along in `es` and `fs`
  induction h generalizing b b' es fs with
  | blanks hxs hys =>
    obtain ⟨longer, hlonger, hruns⟩ := runEnds_of_blank hxs b es
    obtain ⟨longer', hlonger', hruns'⟩ := runEnds_of_blank hys b' fs
    rw [hruns, hruns']
    exact (Agree.of_dead hlonger hlonger').append (.cons reads reads.same hes)
  | cons hcd h ih =>
    have hblank : CharSet.blank.accepts _ = CharSet.blank.accepts _ :=
      CharSet.accepts_congr rfl hcd
    rw [runEnds, runEnds, hblank]
    split
    · exact ih (reads.step hcd h) (.cons reads reads.same hes)
    · exact .cons reads reads.same hes
  | dotted _ _ =>
    -- neither text goes on with white space
    rw [runEnds, runEnds, if_neg (by decide), if_neg (by decide)]
    exact .cons reads reads.same hes

/-- A character read from white space at the end leads to a dead place. -/
theorem dead_one_of_blank {set : CharSet} {b : Option Char} {xs : List Char}
    (hxs : ∀ c ∈ xs, isBlank c = true) : ∀ e ∈ (one set).ends ⟨b, xs⟩, e.dead = true := by
  intro e he
  obtain ⟨c, rest, hsplit, -, rfl⟩ := exists_of_mem_ends_one he
  obtain rfl : xs = c :: rest := hsplit
  refine dead_of_blank (hxs c List.mem_cons_self) (List.all_eq_true.2 ?_)
  intro d hd
  exact hxs d (List.mem_cons_of_mem c hd)

/-- **Simulation**: a pattern that looks at traits ends at the same places, in the same order of
    preference, once dead places are left out. -/
theorem ends_same (h : pattern.byTraits = true) (same : Same p q) :
    Agree (Reads p q) (pattern.ends p) (pattern.ends q) := by
  induction pattern generalizing p q with
  | nothing => exact .cons (.refl same) same .nil
  | boundary =>
    rw [ends, ends, same.isBoundary_eq]
    split
    · exact .cons (.refl same) same .nil
    · exact .nil
  | one set =>
    obtain ⟨b, xs⟩ := p
    obtain ⟨b', ys⟩ := q
    cases same.rest with
    | blanks hxs hys => exact .of_dead (dead_one_of_blank hxs) (dead_one_of_blank hys)
    | cons hcd hrest =>
      simp only [ends, CharSet.accepts_congr h hcd]
      split
      · exact .cons ((Reads.refl same).step hcd hrest) (same_of_traits hcd hrest) .nil
      · exact .nil
    | dotted hrest =>
      -- the capital is not read, and behind the `i` alone the place is dead
      rw [ends_one_cons, if_neg (by rw [CharSet.not_accepts_dotted h]; exact Bool.false_ne_true)]
      refine .of_dead (fun e he => absurd he List.not_mem_nil) ?_
      intro e he
      obtain ⟨c, rest, hsplit, -, rfl⟩ := exists_of_mem_ends_one he
      obtain ⟨rfl, rfl⟩ := List.cons.inj hsplit
      exact dead_between _
  | seq first second ihfirst ihsecond =>
    rw [byTraits, Bool.and_eq_true] at h
    -- what the second part makes of a dead end of the first is dead again
    refine (ihfirst h.1 same).flatMap ?_ ?_ ?_
    · exact fun e hdead e' he' => dead_ends h.2 hdead he'
    · exact fun e hdead e' he' => dead_ends h.2 hdead he'
    · exact fun e f reads => (ihsecond h.2 reads.same).trans reads
  | either left right ihleft ihright =>
    rw [byTraits, Bool.and_eq_true] at h
    exact (ihleft h.1 same).append (ihright h.2 same)
  | maybe body ih => exact (ih h same).append (.cons (.refl same) same .nil)
  | many set =>
    obtain rfl : set = .blank := beq_iff_eq.1 h
    exact runEnds_same same.rest (.refl same) .nil

end Pattern

end Rehearsal
