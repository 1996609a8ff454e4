import Rehearsal.Pattern.Basic
import Rehearsal.Proofs.Text.Traits

/-! # Places where nothing can be found

  A finder looks at the traits of characters only. Two kinds of places are `dead` to it: in white
  space at the end of a text, and between an `i` and a combining dot, where a text in lower case
  has one place more than the text that it comes from. Whatever is matched from a dead place
  ends at a dead place again, and a pattern that lands never ends at one, so nothing is found
  from there.

  Main statements: `dead_ends`, `not_dead_of_lands`.
-/

namespace Rehearsal

open Text

/-! ## Sets and patterns that look at traits -/

/-- Whether the set depends on the traits of a character only. -/
def CharSet.byTraits : CharSet → Bool
  | .blank | .digit => true
  | .folded c => c.isLower
  | .inLine | .exactly _ => false

theorem CharSet.accepts_folded {x : Char} (hx : x.isLower = true) (c : Char) :
    (CharSet.folded x).accepts c = ((traits c).folded == some x) := by
  show (foldLetter c == x) = (Option.guard Char.isLower (foldLetter c) == some x)
  by_cases h : (foldLetter c).isLower = true
  · simp [Option.guard, h]
  · have hne : foldLetter c ≠ x := by
      rintro rfl
      exact h hx
    simp [Option.guard, h, hne]

theorem CharSet.accepts_congr {set : CharSet} (h : set.byTraits = true) {c d : Char}
    (hcd : traits c = traits d) : set.accepts c = set.accepts d := by
  cases set with
  | blank => exact congrArg Traits.blank hcd
  | digit => exact congrArg Traits.digit hcd
  | folded x => rw [accepts_folded h, accepts_folded h, hcd]
  | inLine => cases h
  | exactly x => cases h

/-- A character that is no white space, no digit and no letter belongs to none of the sets. -/
theorem CharSet.not_accepts {set : CharSet} (h : set.byTraits = true) {c : Char}
    (hblank : isBlank c = false) (hdigit : isDecimalDigit c = false)
    (hfolded : (traits c).folded = none) : set.accepts c = false := by
  cases set with
  | blank => exact hblank
  | digit => exact hdigit
  | folded x =>
    rw [accepts_folded h, hfolded]
    rfl
  | inLine => cases h
  | exactly x => cases h

theorem CharSet.not_accepts_dot {set : CharSet} (h : set.byTraits = true) :
    set.accepts '\u0307' = false :=
  not_accepts h (by decide) (by decide +kernel) (by decide)

theorem CharSet.not_accepts_dotted {set : CharSet} (h : set.byTraits = true) :
    set.accepts '\u0130' = false :=
  not_accepts h (by decide) (by decide +kernel) (by decide)

namespace Pattern

/-- Whether the pattern depends on the traits of the characters only, and repeats nothing but
    white space. -/
def byTraits : Pattern → Bool
  | .nothing | .boundary => true
  | .one set => set.byTraits
  | .seq p q | .either p q => p.byTraits && q.byTraits
  | .maybe p => p.byTraits
  | .many set => set == .blank

/-- Whether every match ends at a boundary, behind a digit or behind a letter other than `i`. -/
def lands : Pattern → Bool
  | .boundary => true
  | .one .digit => true
  | .one (.folded c) => c.isLower && c != 'i'
  | .seq p q => q.lands || (p.lands && q == .nothing)
  | .either p q => p.lands && q.lands
  | _ => false

/-- Whether no match begins with white space outside of words. -/
def skipsBlanks : Pattern → Bool
  | .boundary => true
  | .one .digit => true
  | .one (.folded c) => c.isLower
  | .seq p q => p.skipsBlanks || (p == .nothing && q.skipsBlanks)
  | .either p q => p.skipsBlanks && q.skipsBlanks
  | _ => false

end Pattern

/-! ## Dead places -/

namespace Place

/-- Whether the place is behind a letter that folds to `i`. -/
def afterI (p : Place) : Bool := p.before.any fun c => (traits c).folded == some 'i'

/-- Whether the place is outside of words with only white space to come. -/
def spent (p : Place) : Bool := !p.before.any isWord && p.rest.all isBlank

/-- Whether the place is between an `i` and the dot that belongs to it. -/
def split (p : Place) : Bool := p.afterI && p.rest.head?.any fun c => (traits c).dot

/-- Whether nothing that a finder looks for can end at the place. -/
def dead (p : Place) : Bool := p.spent || p.split

def alive (p : Place) : Bool := !p.dead

variable {p : Place} {b : Option Char} {c : Char} {xs : List Char}

theorem alive_eq_false : p.alive = false ↔ p.dead = true := by
  unfold alive
  rw [Bool.not_eq_false']

theorem not_afterI_of_not_word (hp : p.before.any isWord = false) : p.afterI = false := by
  rw [← Bool.not_eq_true]
  intro hafter
  obtain ⟨c, hc, hi⟩ := (Option.any_eq_true _ _).1 hafter
  have hword := (word_of_folded (beq_iff_eq.1 hi)).1
  rw [hc] at hp
  rw [show isWord c = false from hp] at hword
  cases hword

/-- No word begins or ends at a dead place. -/
theorem not_isBoundary_of_dead (h : p.dead = true) :
    isBoundary p.before p.rest.head? = false := by
  unfold isBoundary
  rw [bne_eq_false_iff_eq]
  obtain ⟨b, rest⟩ := p
  rcases Bool.or_eq_true_iff.1 h with hspent | hsplit
  -- neither side is a character of a word
  · obtain ⟨hword, hblank⟩ := Bool.and_eq_true_iff.1 hspent
    rw [Bool.not_eq_true'] at hword
    rw [hword]
    cases rest with
    | nil => rfl
    | cons c rest =>
      exact (not_isWord_of_isBlank (List.all_eq_true.1 hblank c List.mem_cons_self)).symm
  -- the `i` and the dot both are
  · obtain ⟨hafter, hdot⟩ := Bool.and_eq_true_iff.1 hsplit
    obtain ⟨c, rfl, hc⟩ := (Option.any_eq_true _ _).1 hafter
    obtain ⟨d, hd, hdot⟩ := (Option.any_eq_true _ _).1 hdot
    obtain rfl := beq_iff_eq.1 hdot
    rw [hd]
    show isWord c = isWord '\u0307'
    rw [(word_of_folded (beq_iff_eq.1 hc)).1]
    decide +kernel

theorem dead_of_blank (hc : isBlank c = true) (hxs : xs.all isBlank = true) :
    dead ⟨some c, xs⟩ = true := by
  simp [dead, spent, not_isWord_of_isBlank hc, hxs]

theorem dead_between (ys : List Char) : dead ⟨some 'i', '\u0307' :: ys⟩ = true := by
  rw [dead, show split ⟨some 'i', '\u0307' :: ys⟩ = true from rfl, Bool.or_true]

theorem dead_step (set : CharSet) (h : set.byTraits = true) (hdead : dead ⟨b, c :: xs⟩ = true)
    (hc : set.accepts c = true) : dead ⟨some c, xs⟩ = true := by
  rcases Bool.or_eq_true_iff.1 hdead with hspent | hsplit
  · obtain ⟨-, hblank⟩ := Bool.and_eq_true_iff.1 hspent
    rw [List.all_cons, Bool.and_eq_true] at hblank
    exact dead_of_blank hblank.1 hblank.2
  · obtain ⟨-, hdot⟩ := Bool.and_eq_true_iff.1 hsplit
    obtain rfl : c = '\u0307' := beq_iff_eq.1 hdot
    rw [CharSet.not_accepts_dot h] at hc
    cases hc

end Place

/-! ## Matches from dead places and at dead places -/

namespace Pattern

open Place

variable {pattern : Pattern} {p e : Place} {b : Option Char} {c : Char} {xs : List Char}

theorem ends_one_cons (set : CharSet) (b : Option Char) (c : Char) (xs : List Char) :
    (one set).ends ⟨b, c :: xs⟩ = if set.accepts c then [⟨some c, xs⟩] else [] := rfl

theorem exists_of_mem_ends_one {set : CharSet} (he : e ∈ (one set).ends p) :
    ∃ c rest, p.rest = c :: rest ∧ set.accepts c = true ∧ e = ⟨some c, rest⟩ := by
  obtain ⟨b, rest⟩ := p
  cases rest with
  | nil => cases he
  | cons c rest =>
    rw [ends_one_cons] at he
    split at he
    · rename_i hc
      exact ⟨c, rest, rfl, hc, List.mem_singleton.1 he⟩
    · cases he

theorem dead_runEnds {shorter : List Place} (hshorter : ∀ e ∈ shorter, e.dead = true)
    (hdead : dead ⟨b, xs⟩ = true) : ∀ e ∈ runEnds .blank shorter b xs, e.dead = true := by
  induction xs generalizing b shorter with
  | nil =>
    intro e he
    rcases List.mem_cons.1 he with rfl | he
    · exact hdead
    · exact hshorter e he
  | cons c xs ih =>
    -- the end added here is the place itself
    have hlonger : ∀ e ∈ (⟨b, c :: xs⟩ : Place) :: shorter, e.dead = true := by
      intro e he
      rcases List.mem_cons.1 he with rfl | he
      · exact hdead
      · exact hshorter e he
    unfold runEnds
    split
    · rename_i hc
      exact ih hlonger (dead_step .blank rfl hdead hc)
    · exact hlonger

/-- From a dead place only dead places are reached. -/
theorem dead_ends (h : pattern.byTraits = true) (hdead : p.dead = true) (he : e ∈ pattern.ends p) :
    e.dead = true := by
  induction pattern generalizing p e with
  | nothing =>
    rw [List.mem_singleton.1 he]
    exact hdead
  | boundary =>
    rw [ends, not_isBoundary_of_dead hdead] at he
    cases he
  | one set =>
    obtain ⟨b, xs⟩ := p
    obtain ⟨c, rest, rfl, hc, rfl⟩ := exists_of_mem_ends_one he
    exact dead_step set h hdead hc
  | seq first second ihfirst ihsecond =>
    rw [byTraits, Bool.and_eq_true] at h
    obtain ⟨middle, hmiddle, he⟩ := List.mem_flatMap.1 he
    exact ihsecond h.2 (ihfirst h.1 hdead hmiddle) he
  | either left right ihleft ihright =>
    rw [byTraits, Bool.and_eq_true] at h
    rcases List.mem_append.1 he with he | he
    · exact ihleft h.1 hdead he
    · exact ihright h.2 hdead he
  | maybe body ih =>
    rcases List.mem_append.1 he with he | he
    · exact ih h hdead he
    · rw [List.mem_singleton.1 he]
      exact hdead
  -- of the classes with runs only white space is among the patterns concerned
  | many set =>
    obtain rfl : set = .blank := beq_iff_eq.1 h
    refine dead_runEnds ?_ hdead e he
    intro e he
    cases he

/-- Behind a character of a word that does not fold to `i`, no place is dead. -/
theorem not_dead_of_word (hword : isWord c = true) (hc : (traits c).folded ≠ some 'i') :
    dead ⟨some c, xs⟩ = false := by
  have hspent : spent ⟨some c, xs⟩ = false := by
    simp [spent, hword]
  have hsplit : split ⟨some c, xs⟩ = false := by
    simp [split, afterI, hc]
  rw [dead, hspent, hsplit]
  rfl

/-- A pattern that lands never ends at a dead place. -/
theorem not_dead_of_lands (h : pattern.lands = true) (he : e ∈ pattern.ends p) :
    e.dead = false := by
  induction pattern generalizing p e with
  | boundary =>
    rw [← Bool.not_eq_true]
    intro hdead
    rw [ends] at he
    split at he
    · rename_i hboundary
      rw [List.mem_singleton.1 he] at hdead
      rw [not_isBoundary_of_dead hdead] at hboundary
      cases hboundary
    · cases he
  | one set =>
    obtain ⟨c, rest, -, hc, rfl⟩ := exists_of_mem_ends_one he
    cases set with
    | digit =>
      refine not_dead_of_word (isWord_of_isDecimalDigit hc) ?_
      intro hi
      have hdigit := (word_of_folded hi).2
      rw [show isDecimalDigit c = true from hc] at hdigit
      cases hdigit
    | folded x =>
      rw [lands, Bool.and_eq_true, bne_iff_ne] at h
      rw [CharSet.accepts_folded h.1, beq_iff_eq] at hc
      refine not_dead_of_word (word_of_folded hc).1 ?_
      rw [hc]
      intro hi
      exact h.2 (Option.some.inj hi)
    | blank => cases h
    | inLine => cases h
    | exactly x => cases h
  | seq first second ihfirst ihsecond =>
    obtain ⟨middle, hmiddle, he⟩ := List.mem_flatMap.1 he
    -- either the second part lands, or it is empty and the first part does
    rcases Bool.or_eq_true_iff.1 h with hsecond | hfirst
    · exact ihsecond hsecond he
    · obtain ⟨hfirst, hnothing⟩ := Bool.and_eq_true_iff.1 hfirst
      rw [beq_iff_eq.1 hnothing] at he
      rw [List.mem_singleton.1 he]
      exact ihfirst hfirst hmiddle
  | either left right ihleft ihright =>
    rw [lands, Bool.and_eq_true] at h
    rcases List.mem_append.1 he with he | he
    · exact ihleft h.1 he
    · exact ihright h.2 he
  -- the others may end anywhere, so they do not land
  | nothing => cases h
  | maybe body ih => cases h
  | many set => cases h

/-- A pattern that skips white space does not match where white space begins outside of words. -/
theorem ends_eq_nil_of_skipsBlanks (h : pattern.skipsBlanks = true) (hb : b.any isWord = false)
    (hc : isBlank c = true) : pattern.ends ⟨b, c :: xs⟩ = [] := by
  have hword : isWord c = false := not_isWord_of_isBlank hc
  induction pattern with
  | boundary =>
    have hboundary : isBoundary b (some c) = false := by
      simp [isBoundary, hb, hword]
    show (if isBoundary b (some c) = true then _ else _) = _
    rw [if_neg (by rw [hboundary]; exact Bool.false_ne_true)]
  -- a digit is a word character, and so is any letter that counts as `x`
  | one set =>
    have haccepts : set.accepts c = false := by
      rw [← Bool.not_eq_true]
      intro haccepts
      cases set with
      | digit => rw [isWord_of_isDecimalDigit haccepts] at hword; cases hword
      | folded x =>
        rw [CharSet.accepts_folded h, beq_iff_eq] at haccepts
        rw [(word_of_folded haccepts).1] at hword
        cases hword
      | blank => cases h
      | inLine => cases h
      | exactly x => cases h
    rw [ends_one_cons, if_neg (by rw [haccepts]; exact Bool.false_ne_true)]
  -- a first part that needs nothing leaves the second one at the same place
  | seq first second ihfirst ihsecond =>
    rcases Bool.or_eq_true_iff.1 h with hfirst | hsecond
    · rw [ends, ihfirst hfirst, List.flatMap_nil]
    · obtain ⟨hnothing, hsecond⟩ := Bool.and_eq_true_iff.1 hsecond
      rw [beq_iff_eq.1 hnothing, ends, ends, List.flatMap_singleton, ihsecond hsecond]
  | either left right ihleft ihright =>
    rw [skipsBlanks, Bool.and_eq_true] at h
    rw [ends, ihleft h.1, ihright h.2, List.append_nil]
  | nothing => cases h
  | maybe body ih => cases h
  | many set => cases h

end Pattern

end Rehearsal
