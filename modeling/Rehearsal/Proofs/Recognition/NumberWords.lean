import Rehearsal.Proofs.Number.Digits
import Rehearsal.Proofs.Pattern.BlockSearch
import Rehearsal.Recognition.Slots

/-! # Numbers read word by word

  The finders that read numbers search a text with patterns. What they read is said here in terms
  of the words of the text and of what stands between them: a number is a word of one to three
  decimal digits, the number of bars is one with "bar" or "bars" as the next word, and that of a
  page is one with "page" as the word before it.

  Main statement: `numbers_by_words`.
-/

namespace Rehearsal

open Text

namespace Slots

open Pattern Place

variable {before rest d w : List Char} {bs : List (List Char)} {names : List String}

/-! ## Words -/

/-- Whether a word is a number: one to three decimal digits of any script. -/
def isNumber (w : List Char) : Bool :=
  w.all isDecimalDigit && decide (1 ≤ w.length) && decide (w.length ≤ 3)

/-- Whether a word is one of those named, but for the case of its letters. -/
def isNamed (names : List String) (w : List Char) : Bool :=
  names.any fun name => w.map foldLetter == name.toList

/-- The value of a number, if all of its digits are basic Latin ones. -/
def latin? (w : List Char) : Option Nat :=
  if w.all fun c => decide (c.toNat < 0x80) then some (Number.ofDigits w) else none

def numberInFront? (bs : List (List Char)) : Option (List Char) := bs.head?.filter isNumber

/-- The number in front of blocks, if only white space is between it and a word named. -/
def numberBefore? (names : List String) : List (List Char) → Option (List Char)
  | n :: gap :: w :: _ =>
    if isNumber n && gap.all isBlank && isNamed names w then some n else none
  | _ => none

/-- The number behind a word named in front of blocks, if only white space is between them. -/
def numberAfter? (names : List String) : List (List Char) → Option (List Char)
  | w :: gap :: n :: _ =>
    if isNamed names w && gap.all isBlank && isNumber n then some n else none
  | _ => none

theorem isNumber_iff : isNumber d = true ↔
    1 ≤ d.length ∧ d.length ≤ 3 ∧ ∀ c ∈ d, isDecimalDigit c = true := by
  simp only [isNumber, Bool.and_eq_true, decide_eq_true_eq, List.all_eq_true]
  tauto

theorem word_of_isNumber (h : isNumber d = true) : Word d where
  ne_nil := List.length_pos_iff.1 (isNumber_iff.1 h).1
  isWord c hc := isWord_of_isDecimalDigit ((isNumber_iff.1 h).2.2 c hc)

theorem isNamed_iff : isNamed names w = true ↔ ∃ name ∈ names, w.map foldLetter = name.toList := by
  simp only [isNamed, List.any_eq_true, beq_iff_eq]

theorem word_of_isNamed (hnames : ∀ name ∈ names, name.toList ≠ [] ∧ name.toList.all Char.isLower)
    (h : isNamed names w = true) : Word w := by
  obtain ⟨name, hname, hw⟩ := isNamed_iff.1 h
  obtain ⟨hne, hlower⟩ := hnames name hname
  rw [← hw] at hne hlower
  refine ⟨fun hnil => hne (by rw [hnil, List.map_nil]), fun c hc => ?_⟩
  have hfolded : (traits c).folded = some (foldLetter c) :=
    Option.guard_eq_some_iff.2 ⟨rfl, List.all_eq_true.1 hlower _ (List.mem_map_of_mem hc)⟩
  exact (word_of_folded hfolded).1

theorem word_of_isNamed_bars (h : isNamed ["bar", "bars"] w = true) : Word w :=
  word_of_isNamed (by decide) h

theorem word_of_isNamed_page (h : isNamed ["page"] w = true) : Word w :=
  word_of_isNamed (by decide) h

/-! ## What the finders look for -/

theorem spans_number : Spans .upToThreeDigits before d rest ↔ isNumber d = true := by
  rw [spans_upToThreeDigits, isNumber_iff]

/-- "bar" or "bars" as a word. -/
theorem spans_bars :
    Spans (inOrder [folded "bar", .maybe (.one (.folded 's')), .boundary]) before w rest ↔
      isNamed ["bar", "bars"] w = true ∧
        isBoundary (before ++ w).getLast? rest.head? = true := by
  have hplural : "bars".toList = "bar".toList ++ ['s'] := by decide
  simp only [inOrder, spans_seq, spans_folded, spans_maybe, spans_one, spans_boundary,
    spans_nothing, isNamed_iff, List.mem_cons, List.not_mem_nil, or_false, exists_eq_or_imp,
    exists_eq_left, hplural, List.map_eq_append_iff]
  constructor
  -- with the letter of the plural and without it
  · rintro ⟨x, _, rfl, hx, s, _, rfl, ⟨c, rfl, hc⟩ | rfl, _, _, rfl, ⟨rfl, hend⟩, rfl⟩
    · refine ⟨.inr ⟨x, [c], rfl, hx, ?_⟩, ?_⟩
      · rw [List.map_singleton, beq_iff_eq.1 hc]
      · simpa using hend
    · refine ⟨.inl ?_, ?_⟩
      · simpa using hx
      · simpa using hend
  · rintro ⟨hw | ⟨x, y, rfl, hx, hy⟩, hend⟩
    · refine ⟨w, [], by simp, hw, [], [], rfl, .inr rfl, [], [], rfl, ⟨rfl, ?_⟩, rfl⟩
      simpa using hend
    -- `bars` is `bar` and one letter more, in either case
    · obtain ⟨c, rfl, hc⟩ := List.map_eq_singleton_iff.1 hy
      refine ⟨x, [c], rfl, hx, [c], [], rfl, .inl ⟨c, rfl, beq_iff_eq.2 hc⟩, [], [], rfl, ⟨rfl, ?_⟩,
        rfl⟩
      simpa using hend

/-- The finder of a number reads a whole word. -/
theorem numberFinder_reads : numberFinder.ReadsAt before rest d ↔
    (∀ c ∈ before.getLast?, isWord c = false) ∧ isNumber d = true ∧
      ∃ back, rest = d ++ back ∧ ∀ c ∈ back.head?, isWord c = false := by
  simp only [Finder.ReadsAt, numberFinder, spans_boundary, spans_number]
  constructor
  · rintro ⟨_, _, back, rfl, ⟨rfl, hfront⟩, hd, ⟨rfl, hend⟩⟩
    -- both boundaries stand beside a word, so they say that it does not go on there
    have hnumber := word_of_isNumber hd
    exact ⟨(isBoundary_before_word hnumber).1 hfront, hd, back, rfl,
      (isBoundary_behind_word hnumber).1 hend⟩
  · rintro ⟨hfront, hd, back, rfl, hend⟩
    have hnumber := word_of_isNumber hd
    exact ⟨[], [], back, rfl, ⟨rfl, (isBoundary_before_word hnumber).2 hfront⟩, hd,
      ⟨rfl, (isBoundary_behind_word hnumber).2 hend⟩⟩

/-- The finder of bars reads a whole word in front of another. -/
theorem barsFinder_reads : barsFinder.ReadsAt before rest d ↔
    (∀ c ∈ before.getLast?, isWord c = false) ∧ isNumber d = true ∧
      ∃ gap w back, rest = d ++ (gap ++ (w ++ back)) ∧ (gap ≠ [] ∧ ∀ c ∈ gap, isBlank c = true) ∧
        isNamed ["bar", "bars"] w = true ∧ ∀ c ∈ back.head?, isWord c = false := by
  simp only [Finder.ReadsAt, barsFinder, inOrder_cons gap, spans_seq, spans_boundary, spans_number,
    spans_gap, spans_bars]
  constructor
  · rintro ⟨_, _, back, rfl, ⟨rfl, hfront⟩, hd, g, w, rfl, hg, hw, hend⟩
    refine ⟨?_, hd, g, w, back, by simp, hg, hw, ?_⟩
    · exact (isBoundary_before_word (word_of_isNumber hd)).1 hfront
    · exact (isBoundary_behind_word (word_of_isNamed_bars hw)).1 hend
  · rintro ⟨hfront, hd, g, w, back, rfl, hg, hw, hend⟩
    refine ⟨[], g ++ w, back, by simp, ⟨rfl, ?_⟩, hd, g, w, rfl, hg, hw, ?_⟩
    · exact (isBoundary_before_word (word_of_isNumber hd)).2 hfront
    · exact (isBoundary_behind_word (word_of_isNamed_bars hw)).2 hend

/-- The finder of a page reads a whole word behind another. -/
theorem pageFinder_reads : pageFinder.ReadsAt before rest d ↔
    (∀ c ∈ before.getLast?, isWord c = false) ∧ isNumber d = true ∧
      ∃ w gap back, rest = w ++ (gap ++ (d ++ back)) ∧ isNamed ["page"] w = true ∧
        (gap ≠ [] ∧ ∀ c ∈ gap, isBlank c = true) ∧ ∀ c ∈ back.head?, isWord c = false := by
  simp only [Finder.ReadsAt, pageFinder, inOrder, spans_seq, spans_boundary, spans_number,
    spans_gap, spans_folded, spans_nothing]
  constructor
  · rintro ⟨_, _, back, rfl, ⟨_, _, rfl, ⟨rfl, hfront⟩, w, _, rfl, hw, g, _, rfl, hg, rfl⟩, hd, rfl,
      hend⟩
    -- the first boundary stands before the word `page`, the last one behind the number
    have hnamed : isNamed ["page"] w = true := isNamed_iff.2 ⟨_, List.mem_cons_self, hw⟩
    refine ⟨?_, hd, w, g, back, by simp, hnamed, hg, ?_⟩
    · rw [List.append_nil, List.append_assoc] at hfront
      exact (isBoundary_before_word (word_of_isNamed_page hnamed)).1 hfront
    · exact (isBoundary_behind_word (word_of_isNumber hd)).1 hend
  · rintro ⟨hfront, hd, w, g, back, rfl, hnamed, hg, hend⟩
    obtain ⟨_, hpage, hw⟩ := isNamed_iff.1 hnamed
    obtain rfl := List.mem_singleton.1 hpage
    refine ⟨w ++ g, [], back, by simp, ⟨[], w ++ g, rfl, ⟨rfl, ?_⟩, w, g, rfl, hw, g, [], by simp,
      hg, rfl⟩, hd, rfl, ?_⟩
    · rw [List.append_assoc]
      exact (isBoundary_before_word (word_of_isNamed_page hnamed)).2 hfront
    · exact (isBoundary_behind_word (word_of_isNumber hd)).2 hend

/-! ## What the blocks offer -/

theorem numberInFront?_eq_some :
    numberInFront? bs = some d ↔ isNumber d = true ∧ ∃ back, bs = d :: back := by
  rw [numberInFront?, Option.filter_eq_some_iff, List.head?_eq_some_iff, and_comm]

theorem numberBefore?_eq_some : numberBefore? names bs = some d ↔ isNumber d = true ∧
    ∃ gap w back, bs = d :: gap :: w :: back ∧ (∀ c ∈ gap, isBlank c = true) ∧
      isNamed names w = true := by
  constructor
  · intro h
    unfold numberBefore? at h
    split at h
    -- three blocks at least, and the checks on them
    · rename_i n gap w back
      simp only [Option.ite_none_right_eq_some, Bool.and_eq_true, List.all_eq_true,
        Option.some.injEq] at h
      obtain ⟨⟨⟨hn, hgap⟩, hw⟩, rfl⟩ := h
      exact ⟨hn, gap, w, back, rfl, hgap, hw⟩
    · cases h
  · rintro ⟨hd, gap, w, back, rfl, hgap, hw⟩
    simp only [numberBefore?, hd, hw, List.all_eq_true.2 hgap, Bool.and_self, if_true]

theorem numberAfter?_eq_some : numberAfter? names bs = some d ↔ isNumber d = true ∧
    ∃ w gap back, bs = w :: gap :: d :: back ∧ isNamed names w = true ∧
      ∀ c ∈ gap, isBlank c = true := by
  constructor
  · intro h
    unfold numberAfter? at h
    split at h
    · rename_i w gap n back
      simp only [Option.ite_none_right_eq_some, Bool.and_eq_true, List.all_eq_true,
        Option.some.injEq] at h
      obtain ⟨⟨⟨hw, hgap⟩, hn⟩, rfl⟩ := h
      exact ⟨hn, w, gap, back, rfl, hw, hgap⟩
    · cases h
  · rintro ⟨hd, w, gap, back, rfl, hw, hgap⟩
    simp only [numberAfter?, hd, hw, List.all_eq_true.2 hgap, Bool.and_self, if_true]

/-- A word, white space and a word that ends: these are the first three blocks, and the other way
    round. -/
theorem exists_phrase_iff {gap : List Char} (hbs : Blocked true bs) (hd : Word d) (hw : Word w)
    (hgap : ∀ c ∈ gap, isBlank c = true) :
    (∃ back, bs.flatten = d ++ (gap ++ (w ++ back)) ∧ gap ≠ [] ∧
      ∀ c ∈ back.head?, isWord c = false) ↔ ∃ back, bs = d :: gap :: w :: back := by
  have hbetween : ∀ c ∈ gap, isWord c = false := fun c hc => not_isWord_of_isBlank (hgap c hc)
  constructor
  · rintro ⟨back, hsplit, hne, hend⟩
    -- where each of the three ends, a character of the other kind follows; so each is the next
    -- block of the text
    have hstop : ∀ c ∈ (gap ++ (w ++ back)).head?, isWord c = !true := by
      rw [List.head?_append_of_ne_nil gap hne]
      exact fun c hc => hbetween c (List.mem_of_mem_head? hc)
    have hgo : ∀ c ∈ (w ++ back).head?, isWord c = !false := by
      rw [List.head?_append_of_ne_nil w hw.ne_nil]
      exact fun c hc => hw.isWord c (List.mem_of_mem_head? hc)
    obtain ⟨bs, rfl, htail, hbs⟩ := hbs.eq_cons hd.ne_nil hd.isWord hstop hsplit
    obtain ⟨bs, rfl, htail, hbs⟩ := hbs.eq_cons hne hbetween hgo htail.symm
    obtain ⟨bs, rfl, -, -⟩ := hbs.eq_cons hw.ne_nil hw.isWord hend htail.symm
    exact ⟨bs, rfl⟩
  · rintro ⟨back, rfl⟩
    obtain ⟨-, -, hbs⟩ := Blocked.cons_iff.1 hbs
    obtain ⟨hne, -, hbs⟩ := Blocked.cons_iff.1 hbs
    obtain ⟨-, -, hbs⟩ := Blocked.cons_iff.1 hbs
    exact ⟨back.flatten, rfl, hne, hbs.isWord_head⟩

theorem numberFinder_readsWords : numberFinder.ReadsWords numberInFront? where
  outside h := (numberFinder_reads.1 h).1
  begins h := by
    obtain ⟨-, hd, back, rfl, -⟩ := numberFinder_reads.1 h
    exact (word_of_isNumber hd).isWord_head back
  atWord hbefore hbs d := by
    rw [numberFinder_reads, numberInFront?_eq_some]
    constructor
    · rintro ⟨-, hd, back, hsplit, hend⟩
      -- a number up to a boundary is the whole of the first block
      have hnumber := word_of_isNumber hd
      obtain ⟨bs, rfl, -, -⟩ := hbs.eq_cons hnumber.ne_nil hnumber.isWord hend hsplit
      exact ⟨hd, bs, rfl⟩
    · rintro ⟨hd, bs, rfl⟩
      exact ⟨hbefore, hd, bs.flatten, rfl, (Blocked.cons_iff.1 hbs).2.2.isWord_head⟩
  offers h := by
    obtain ⟨hd, back, rfl⟩ := numberInFront?_eq_some.1 h
    exact ⟨_, back, rfl, word_of_isNumber hd⟩

theorem barsFinder_readsWords : barsFinder.ReadsWords (numberBefore? ["bar", "bars"]) where
  outside h := (barsFinder_reads.1 h).1
  begins h := by
    obtain ⟨-, hd, _, _, _, rfl, -⟩ := barsFinder_reads.1 h
    exact (word_of_isNumber hd).isWord_head _
  atWord hbefore hbs d := by
    rw [barsFinder_reads, numberBefore?_eq_some]
    constructor
    -- what is read there is the number, the gap and the word, one block each
    · rintro ⟨-, hd, gap, w, back, hsplit, ⟨hne, hgap⟩, hw, hend⟩
      obtain ⟨rest, hrest⟩ := (exists_phrase_iff hbs (word_of_isNumber hd) (word_of_isNamed_bars hw)
        hgap).1 ⟨back, hsplit, hne, hend⟩
      exact ⟨hd, gap, w, rest, hrest, hgap, hw⟩
    · rintro ⟨hd, gap, w, rest, hrest, hgap, hw⟩
      obtain ⟨back, hsplit, hne, hend⟩ := (exists_phrase_iff hbs (word_of_isNumber hd)
        (word_of_isNamed_bars hw) hgap).2 ⟨rest, hrest⟩
      exact ⟨hbefore, hd, gap, w, back, hsplit, ⟨hne, hgap⟩, hw, hend⟩
  offers h := by
    obtain ⟨hd, _, _, _, rfl, -⟩ := numberBefore?_eq_some.1 h
    exact ⟨_, _, rfl, word_of_isNumber hd⟩

theorem pageFinder_readsWords : pageFinder.ReadsWords (numberAfter? ["page"]) where
  outside h := (pageFinder_reads.1 h).1
  begins h := by
    obtain ⟨-, -, _, _, _, rfl, hw, -⟩ := pageFinder_reads.1 h
    exact (word_of_isNamed_page hw).isWord_head _
  atWord hbefore hbs d := by
    rw [pageFinder_reads, numberAfter?_eq_some]
    constructor
    · rintro ⟨-, hd, w, gap, back, hsplit, hw, ⟨hne, hgap⟩, hend⟩
      obtain ⟨rest, hrest⟩ := (exists_phrase_iff hbs (word_of_isNamed_page hw) (word_of_isNumber hd)
        hgap).1 ⟨back, hsplit, hne, hend⟩
      exact ⟨hd, w, gap, rest, hrest, hw, hgap⟩
    · rintro ⟨hd, w, gap, rest, hrest, hw, hgap⟩
      obtain ⟨back, hsplit, hne, hend⟩ := (exists_phrase_iff hbs (word_of_isNamed_page hw)
        (word_of_isNumber hd) hgap).2 ⟨rest, hrest⟩
      exact ⟨hbefore, hd, w, gap, back, hsplit, hw, ⟨hne, hgap⟩, hend⟩
  offers h := by
    obtain ⟨-, _, _, _, rfl, hw, -⟩ := numberAfter?_eq_some.1 h
    exact ⟨_, _, rfl, word_of_isNamed_page hw⟩

/-! ## Values -/

theorem isDigit_iff_of_isDecimalDigit {c : Char} (h : isDecimalDigit c = true) :
    c.isDigit = true ↔ c.toNat < 0x80 := by
  have hc := Ranges.of_allCharacters (fun c => c.isDigit == decide (c.toNat < 0x80))
    (by decide +kernel) h
  rw [beq_iff_eq.1 hc, decide_eq_true_eq]

theorem value?_eq_latin? (h : isNumber d = true) : value? d = latin? d := by
  have hdigits : d.all Char.isDigit = d.all fun c => decide (c.toNat < 0x80) := by
    rw [Bool.eq_iff_iff, List.all_eq_true, List.all_eq_true]
    refine forall₂_congr fun c hc => ?_
    rw [isDigit_iff_of_isDecimalDigit ((isNumber_iff.1 h).2.2 c hc), decide_eq_true_eq]
  rw [value?, latin?, hdigits]

theorem value?_le {value : Nat} (h : isNumber d = true) (hvalue : value? d = some value) :
    value ≤ 999 := by
  obtain ⟨hdigits, heq⟩ := Option.ite_none_right_eq_some.1 hvalue
  have hlt := Number.ofDigits_lt (List.all_eq_true.1 hdigits)
  have hpow : Number.tenPow d.length ≤ 1000 :=
    Nat.pow_le_pow_right (by decide : 0 < 10) (isNumber_iff.1 h).2.1
  have hvalue : Number.ofDigits d = value := Option.some.inj heq
  omega

section Found

variable {f : Finder} {read : List (List Char) → Option (List Char)} {text : List Char}

theorem isNumber_of_find? (hf : f.ReadsWords read)
    (hread : ∀ {bs d}, read bs = some d → isNumber d = true) (h : f.find? text = some d) :
    isNumber d = true := by
  rw [hf.find?_eq_findSome?_tails] at h
  obtain ⟨bs, -, hbs⟩ := List.exists_of_findSome?_eq_some h
  exact hread hbs

theorem bind_find?_eq (hf : f.ReadsWords read)
    (hread : ∀ {bs d}, read bs = some d → isNumber d = true) :
    (f.find? text).bind value? = ((blocks text).tails.findSome? read).bind latin? := by
  rw [← hf.find?_eq_findSome?_tails]
  exact Option.bind_congr fun d hd => value?_eq_latin? (isNumber_of_find? hf hread hd)

theorem le_of_bind_find? (hf : f.ReadsWords read)
    (hread : ∀ {bs d}, read bs = some d → isNumber d = true) {value : Nat}
    (h : (f.find? text).bind value? = some value) : value ≤ 999 := by
  obtain ⟨d, hd, hvalue⟩ := Option.bind_eq_some_iff.1 h
  exact value?_le (isNumber_of_find? hf hread hd) hvalue

end Found

theorem findSome?_tails_numberInFront? (bs : List (List Char)) :
    bs.tails.findSome? numberInFront? = bs.find? isNumber := by
  induction bs with
  | nil => rfl
  | cons b bs ih =>
    rw [List.tails, List.findSome?_cons, ih, numberInFront?, List.head?_cons, List.find?_cons]
    cases hb : isNumber b with
    | true => rw [Option.filter_some_pos hb]
    | false => rw [Option.filter_some_neg hb]

theorem number_eq (text : List Char) :
    number text = ((blocks text).find? isNumber).bind latin? := by
  rw [← findSome?_tails_numberInFront?]
  exact bind_find?_eq numberFinder_readsWords fun h => (numberInFront?_eq_some.1 h).1

/-- **Numbers are words**: the number of a text is the value of its first word that is a number, the
    number of bars that of the first such word with "bar" or "bars" behind it, and the number of a
    page that of the first such word with "page" before it, or else the number of the text. None of
    them has a value if it has a digit beyond basic Latin, and none is above 999. -/
theorem numbers_by_words (text : List Char) :
    number text = ((blocks text).find? isNumber).bind latin? ∧
      bars text = ((blocks text).tails.findSome? (numberBefore? ["bar", "bars"])).bind latin? ∧
      page text = (((blocks text).tails.findSome? (numberAfter? ["page"])).bind latin?).or
        (((blocks text).find? isNumber).bind latin?) ∧
      ∀ value, number text = some value ∨ bars text = some value ∨ page text = some value →
        value ≤ 999 := by
  have hnumberle : ∀ value, number text = some value → value ≤ 999 := fun value =>
    le_of_bind_find? numberFinder_readsWords fun h => (numberInFront?_eq_some.1 h).1
  refine ⟨number_eq text, ?_, ?_, ?_⟩
  · exact bind_find?_eq barsFinder_readsWords fun h => (numberBefore?_eq_some.1 h).1
  · rw [← number_eq, page,
      bind_find?_eq pageFinder_readsWords fun h => (numberAfter?_eq_some.1 h).1]
  · rintro value (h | h | h)
    · exact hnumberle value h
    · exact le_of_bind_find? barsFinder_readsWords (fun h => (numberBefore?_eq_some.1 h).1) h
    -- the number of a page comes after its word, or else it is the number of the text
    · rcases Option.or_eq_some_iff.1 h with h | ⟨-, h⟩
      · exact le_of_bind_find? pageFinder_readsWords (fun h => (numberAfter?_eq_some.1 h).1) h
      · exact hnumberle value h

/-- A number of four digits is none, and one of another script keeps later ones from counting. -/
example : number "1234 7a 12".toList = some 12 ∧ number "٤ or 4".toList = none ∧
    page "3 PAGE\t٤".toList = some 3 := by
  decide +kernel

end Slots

end Rehearsal
