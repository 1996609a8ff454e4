import Rehearsal.Proofs.Recognition.NumberWords
import Rehearsal.Proofs.Text.LetterCase
import Rehearsal.Proofs.Text.Words

/-! # The first subdivision named

  A subdivision is found by its name with all letters folded, and folding takes a long s for an
  `s`. What is found is then looked up with only the case of basic Latin letters left out of
  account. The two agree on every name but one: a "sixteenth" that begins with a long s is found
  but not known, and nothing behind it is looked at any more. In every other text the subdivision
  is the first one named, and there is none exactly if none is named.

  The search is told by `Found`, the lookup by `Stands`; `found_iff` says where they differ.

  Main statement: `subdivision_is_first_named`.
-/

namespace Rehearsal

open Text

namespace Slots

open Pattern

variable {s t : Subdivision} {text m before rest : List Char} {i : Nat}

/-- The word stands in the text behind its first `i` characters, the case of basic Latin letters
    left out of account. -/
def Stands (word : String) (text : List Char) (i : Nat) : Prop :=
  sameLetters word.toList ((text.drop i).take word.toList.length) = true

instance (word : String) (text : List Char) (i : Nat) : Decidable (Stands word text i) :=
  inferInstanceAs (Decidable (_ = true))

/-- Of all names of subdivisions that stand in the text, this one stands first. -/
def NamedFirst (s : Subdivision) (text : List Char) : Prop :=
  ∃ i, Stands s.name text i ∧ ∀ t j, Stands (Subdivision.name t) text j → i ≤ j

/-- Before all names of subdivisions comes a "sixteenth" that begins with a long s. -/
def LongSFirst (text : List Char) : Prop :=
  ∃ i, Stands "\u017Fixteenth" text i ∧ ∀ t j, Stands (Subdivision.name t) text j → i < j

/-- With its letters folded, what stands behind the first `i` characters is the name. -/
def Found (s : Subdivision) (text : List Char) (i : Nat) : Prop :=
  ((text.drop i).take s.name.toList.length).map foldLetter = s.name.toList

/-! ## Names found and names known -/

theorem longS_toList : "\u017Fixteenth".toList = '\u017F' :: "ixteenth".toList := by
  decide +kernel

theorem toLower_longS_iff {c : Char} : '\u017F'.toLower = c.toLower ↔ c = '\u017F' := by
  have hself : '\u017F'.toLower = '\u017F' := by decide
  rw [hself]
  constructor
  · intro hc
    exact eq_of_toLower_eq (by decide) hc.symm
  · rintro rfl
    exact hself.symm

theorem Stands.longS_mem (h : Stands "\u017Fixteenth" text i) : '\u017F' ∈ text := by
  unfold Stands at h
  -- the stretch that is compared begins with the long s, since no other letter is its match
  cases hpart : (text.drop i).take "\u017Fixteenth".toList.length with
  | nil =>
    have hnil : sameLetters "\u017Fixteenth".toList [] = false := by decide +kernel
    rw [hpart, hnil] at h
    cases h
  | cons c m =>
    rw [hpart, longS_toList, sameLetters_cons, toLower_longS_iff] at h
    apply List.mem_of_mem_drop (i := i)
    apply List.mem_of_mem_take (i := "\u017Fixteenth".toList.length)
    rw [hpart, h.1]
    exact List.mem_cons_self

/-- Finding and looking up differ on the name with an `s`, and there only on this letter. -/
theorem map_foldLetter_eq_name_iff : m.map foldLetter = s.name.toList ↔
    sameLetters s.name.toList m = true ∨
      s = .sixteenth ∧ sameLetters "\u017Fixteenth".toList m = true := by
  by_cases hs : s = .sixteenth
  · subst hs
    have hname : Subdivision.sixteenth.name.toList = 's' :: "ixteenth".toList := by decide +kernel
    have hback : ("ixteenth".toList.all fun d => d.isLower && d != 'k' && d != 's') = true := by
      decide +kernel
    rw [hname, longS_toList]
    cases m with
    | nil => simp [sameLetters]
    | cons c m =>
      -- only the first letter can be spelled in two ways
      rw [List.map_cons, List.cons.injEq, sameLetters_cons, sameLetters_cons,
        map_foldLetter_eq_iff hback, foldLetter_eq_iff (by decide) (by decide), toLower_longS_iff]
      simp only [true_and, or_and_right]
  · have hletters : ∀ s ∈ Subdivision.all, s ≠ .sixteenth →
        (s.name.toList.all fun d => d.isLower && d != 'k' && d != 's') = true := by
      decide +kernel
    rw [map_foldLetter_eq_iff (hletters s s.mem_all hs), or_iff_left fun h => hs h.1]

theorem found_iff : Found s text i ↔
    Stands s.name text i ∨ s = .sixteenth ∧ Stands "\u017Fixteenth" text i := by
  have hlength : "\u017Fixteenth".toList.length = Subdivision.sixteenth.name.toList.length := by
    decide +kernel
  rw [Found, map_foldLetter_eq_name_iff, Stands, Stands, hlength]
  by_cases hs : s = .sixteenth
  · rw [hs]
  · rw [or_iff_left fun h => hs h.1, or_iff_left fun h => hs h.1]

theorem Stands.found (h : Stands s.name text i) : Found s text i := found_iff.2 (.inl h)

theorem eq_of_head?_name (h : s.name.toList.head? = t.name.toList.head?) : s = t := by
  have hall : ∀ s ∈ Subdivision.all, ∀ t ∈ Subdivision.all,
      s.name.toList.head? = t.name.toList.head? → s = t := by
    decide +kernel
  exact hall s s.mem_all t t.mem_all h

theorem Found.unique (hs : Found s text i) (ht : Found t text i) : s = t := by
  have hhead : ∀ s, Found s text i → s.name.toList.head? = (text.drop i).head?.map foldLetter := by
    intro s h
    have hne : s.name.toList.length ≠ 0 := by cases s <;> decide +kernel
    rw [← h, List.head?_map, List.head?_take, if_neg hne]
  apply eq_of_head?_name
  rw [hhead s hs, hhead t ht]

theorem NamedFirst.unique (hs : NamedFirst s text) (ht : NamedFirst t text) : s = t := by
  obtain ⟨i, hi, hfirst⟩ := hs
  obtain ⟨j, hj, hfirst'⟩ := ht
  obtain rfl : i = j := Nat.le_antisymm (hfirst t j hj) (hfirst' s i hi)
  exact hi.found.unique hj.found

/-! ## The search -/

theorem subdivisionFinder_reads : subdivisionFinder.ReadsAt before rest m ↔
    ∃ s after, rest = m ++ after ∧ m.map foldLetter = (Subdivision.name s).toList := by
  have hne : (Subdivision.all.map fun s => folded s.name) ≠ [] := by decide
  simp only [Finder.ReadsAt, subdivisionFinder, spans_nothing, spans_oneOf hne, List.mem_map]
  constructor
  · rintro ⟨_, _, after, rfl, rfl, ⟨_, ⟨s, -, rfl⟩, hm⟩, rfl⟩
    exact ⟨s, after, rfl, spans_folded.1 hm⟩
  · rintro ⟨s, after, rfl, hm⟩
    exact ⟨[], [], after, rfl, rfl, ⟨_, ⟨s, s.mem_all, rfl⟩, spans_folded.2 hm⟩, rfl⟩

/-- The finder reads the names found. -/
theorem reads_iff_found : subdivisionFinder.ReadsAt before rest m ↔
    ∃ s, Found s (before ++ rest) before.length ∧ m = rest.take s.name.toList.length := by
  rw [subdivisionFinder_reads]
  unfold Found
  rw [List.drop_left]
  constructor
  · rintro ⟨s, after, rfl, hm⟩
    have hlength : s.name.toList.length = m.length := by rw [← hm, List.length_map]
    have htake : (m ++ after).take s.name.toList.length = m := by rw [hlength, List.take_left]
    exact ⟨s, by rw [htake, hm], htake.symm⟩
  · rintro ⟨s, hfound, rfl⟩
    exact ⟨s, _, (List.take_append_drop _ rest).symm, hfound⟩

theorem valueAt_of_found (h : Found s (before ++ rest) before.length) :
    subdivisionFinder.valueAt (placeAfter before rest) =
      some (rest.take s.name.toList.length) := by
  apply Finder.valueAt_eq_of_readsAt
  intro value
  rw [reads_iff_found]
  constructor
  · rintro ⟨t, ht, rfl⟩
    rw [h.unique ht]
  · intro hvalue
    exact ⟨s, h, (Option.some.inj hvalue).symm⟩

theorem Found.exists_cut (h : Found s text i) :
    ∃ before rest, text = before ++ rest ∧ before.length = i := by
  have hle : i ≤ text.length := by
    by_contra hlt
    unfold Found at h
    rw [List.drop_eq_nil_of_le (by omega)] at h
    revert h
    cases s <;> decide +kernel
  exact ⟨text.take i, text.drop i, (List.take_append_drop i text).symm, List.length_take_of_le hle⟩

/-- Of the names found, the first one is read. -/
theorem find?_of_first (h : Found s text i) (hfirst : ∀ t j, Found t text j → i ≤ j) :
    subdivisionFinder.find? text = some ((text.drop i).take s.name.toList.length) := by
  obtain ⟨before, rest, rfl, rfl⟩ := h.exists_cut
  rw [List.drop_left]
  refine Finder.find?_append_eq_some ?_ (valueAt_of_found h)
  intro x y hsplit hy value hreads
  obtain ⟨t, ht, -⟩ := reads_iff_found.1 hreads
  rw [← List.append_assoc, ← hsplit] at ht
  have hlater := hfirst t x.length ht
  have hpos := List.length_pos_iff.2 hy
  rw [hsplit, List.length_append] at hlater
  omega

/-! ## The lookup -/

/-- A name that was found is known if it is spelled in basic Latin letters. -/
theorem ofName?_of_folded (h : m.map foldLetter = s.name.toList) :
    Subdivision.ofName? m = if sameLetters s.name.toList m then some s else none := by
  have hword : Word m := by
    have hnames : ∀ name ∈ Subdivision.all.map Subdivision.name,
        name.toList ≠ [] ∧ name.toList.all Char.isLower := by
      decide +kernel
    apply word_of_isNamed hnames
    exact isNamed_iff.2 ⟨s.name, List.mem_map_of_mem s.mem_all, h⟩
  have htrim : trim m = m := by
    apply trim_eq_self
    intro c hc
    by_contra hblank
    have hnot := not_isWord_of_isBlank (Bool.eq_true_of_not_eq_false hblank)
    rw [hword.isWord c hc] at hnot
    cases hnot
  -- no other name has the same letters
  have honly : ∀ t : Subdivision, sameLetters t.name.toList m = true → t = s := by
    intro t ht
    have hfolded := map_foldLetter_eq_name_iff.2 (.inl ht)
    apply eq_of_head?_name
    rw [← hfolded, h]
  rw [Subdivision.ofName?, htrim]
  by_cases hknown : sameLetters s.name.toList m = true
  · rw [if_pos hknown]
    cases hfound : Subdivision.all.find? fun t => sameLetters t.name.toList m with
    | none => exact absurd hknown (List.find?_eq_none.1 hfound s s.mem_all)
    | some t =>
      have ht := List.find?_some (p := fun t : Subdivision => sameLetters t.name.toList m) hfound
      rw [honly t ht]
  · rw [if_neg hknown, List.find?_eq_none]
    intro t _ ht
    obtain rfl := honly t ht
    exact hknown ht

theorem subdivision_of_first (h : Found s text i) (hfirst : ∀ t j, Found t text j → i ≤ j) :
    subdivision text = if Stands s.name text i then some s else none := by
  rw [subdivision, find?_of_first h hfirst, Option.bind_some, ofName?_of_folded h]
  rfl

theorem subdivision_of_not_found (h : ∀ s i, ¬ Found s text i) : subdivision text = none := by
  have hfind : subdivisionFinder.find? text = none := by
    apply Finder.find?_eq_none
    rintro x y rfl value hreads
    obtain ⟨s, hs, -⟩ := reads_iff_found.1 hreads
    exact h s x.length hs
  rw [subdivision, hfind, Option.bind_none]

/-! ## The name that comes first -/

/-- If the first name found is known, it is the first of the names. -/
theorem namedFirst_of_first (hfirst : ∀ t j, Found t text j → i ≤ j) (h : Stands s.name text i) :
    NamedFirst s text ∧ ¬ LongSFirst text := by
  constructor
  · exact ⟨i, h, fun t j ht => hfirst t j ht.found⟩
  · rintro ⟨j, hj, hbefore⟩
    have hle := hfirst .sixteenth j (found_iff.2 (.inr ⟨rfl, hj⟩))
    have hlt := hbefore s i h
    omega

theorem longSFirst_of_first (h : Found s text i) (hfirst : ∀ t j, Found t text j → i ≤ j)
    (hnot : ¬ Stands s.name text i) : LongSFirst text := by
  refine ⟨i, ((found_iff.1 h).resolve_left hnot).2, ?_⟩
  intro t j ht
  -- at the place itself no other name is found
  have hne : i ≠ j := by
    rintro rfl
    obtain rfl := h.unique ht.found
    exact hnot ht
  exact Nat.lt_of_le_of_ne (hfirst t j ht.found) hne

/-- A text is of one of three kinds, by what comes first in it. -/
theorem subdivision_cases (text : List Char) :
    (∃ s, NamedFirst s text ∧ ¬ LongSFirst text ∧ subdivision text = some s) ∨
      (LongSFirst text ∧ subdivision text = none) ∨
      ((∀ s i, ¬ Stands (Subdivision.name s) text i) ∧ ¬ LongSFirst text ∧
        subdivision text = none) := by
  classical
  by_cases hany : ∃ i s, Found s text i
  · obtain ⟨s, hs⟩ := Nat.find_spec hany
    have hfirst : ∀ t j, Found t text j → Nat.find hany ≤ j :=
      fun t j ht => Nat.find_min' hany ⟨t, ht⟩
    have hvalue := subdivision_of_first hs hfirst
    -- what is found first is the name itself, or the name spelt with a long s
    by_cases hstands : Stands s.name text (Nat.find hany)
    · obtain ⟨hnamed, hlong⟩ := namedFirst_of_first hfirst hstands
      rw [if_pos hstands] at hvalue
      exact .inl ⟨s, hnamed, hlong, hvalue⟩
    · rw [if_neg hstands] at hvalue
      exact .inr (.inl ⟨longSFirst_of_first hs hfirst hstands, hvalue⟩)
  · have hnot : ∀ s i, ¬ Found s text i := fun s i hs => hany ⟨i, s, hs⟩
    refine .inr (.inr ⟨fun s i hs => hnot s i hs.found, ?_, subdivision_of_not_found hnot⟩)
    rintro ⟨i, hi, -⟩
    exact hnot .sixteenth i (found_iff.2 (.inr ⟨rfl, hi⟩))

/-- **The first subdivision named**: a text has the subdivision whose name stands first in it,
    unless a "sixteenth" that begins with a long s comes before all names. Then it has none, which
    is wrong exactly if there is a name behind. A text without a long s is never of this kind. -/
theorem subdivision_is_first_named (text : List Char) :
    (∀ s, subdivision text = some s ↔ NamedFirst s text ∧ ¬ LongSFirst text) ∧
      (((∀ s, subdivision text = some s ↔ NamedFirst s text) ∧
          (subdivision text = none → ∀ s i, ¬ Stands (Subdivision.name s) text i)) ↔
        (LongSFirst text → ∀ s i, ¬ Stands (Subdivision.name s) text i)) ∧
      ('\u017F' ∉ text → ¬ LongSFirst text) := by
  have hsome : ∀ s, subdivision text = some s ↔ NamedFirst s text ∧ ¬ LongSFirst text := by
    intro s
    -- the three cases exclude each other, so each value belongs to one of them
    rcases subdivision_cases text with ⟨t, ht, hlong, hvalue⟩ | ⟨hlong, hvalue⟩ | ⟨hnot, -, hvalue⟩
    · rw [hvalue, Option.some.injEq, and_iff_left hlong]
      constructor
      · rintro rfl
        exact ht
      · exact ht.unique
    · rw [hvalue]
      exact iff_of_false (Option.some_ne_none s).symm fun h => h.2 hlong
    · rw [hvalue]
      exact iff_of_false (Option.some_ne_none s).symm fun h => hnot s _ h.1.choose_spec.1
  have hnone : LongSFirst text → subdivision text = none := by
    intro hlong
    rw [Option.eq_none_iff_forall_ne_some]
    exact fun s hs => ((hsome s).1 hs).2 hlong
  refine ⟨hsome, ?_, fun hnot hlong => hnot hlong.choose_spec.1.longS_mem⟩
  constructor
  · intro h hlong
    exact h.2 (hnone hlong)
  · intro h
    constructor
    · intro s
      rw [hsome, and_iff_left_iff_imp]
      rintro ⟨i, hi, -⟩ hlong
      exact h hlong s i hi
    · intro hvalue
      rcases subdivision_cases text with ⟨t, -, -, ht⟩ | ⟨hlong, -⟩ | ⟨hnot, -⟩
      · rw [hvalue] at ht
        cases ht
      · exact h hlong
      · exact hnot

/-- Behind a "sixteenth" that begins with a long s a name is not looked at any more. -/
theorem long_s_hides_name : subdivision "\u017Fixteenth quarter".toList = none ∧
    NamedFirst .quarter "\u017Fixteenth quarter".toList := by
  have hnone : ∀ t ∈ Subdivision.all, ∀ j < 10,
      ¬ Stands t.name "\u017Fixteenth quarter".toList j := by
    decide +kernel
  refine ⟨by decide +kernel, 10, by decide +kernel, ?_⟩
  intro t j ht
  by_contra hlt
  exact hnone t t.mem_all j (by omega) ht

end Slots

end Rehearsal
