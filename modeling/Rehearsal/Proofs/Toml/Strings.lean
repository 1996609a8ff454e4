import Mathlib.Tactic.SplitIfs
import Rehearsal.Proofs.Toml.Readers
import Rehearsal.Toml.Writer

/-! # Strings read back

  A string is written in one of four forms. Two of them know backslashes: what `escapeAll` writes
  is read as the text that it was written for, whatever the text is. The other two are only used for
  texts that they can hold.

  Quotes are the difficulty of the forms on several lines: up to two of them may stand in a row, and
  at the end they run into the closing ones. The induction along the text therefore carries the
  quotes that are pending (`basicBlockTail_escapeAll`, `literalBlockTail_append`).

  Main statement: `string_writeString`.
-/

namespace Rehearsal.Toml

open Reader

variable {c : Char} {t cs rest : List Char}

/-! ## One character -/

/-- A text that stands for a character of a string in double quotes. -/
inductive Written (c : Char) : List Char → Prop where
  | plain : c ≠ '"' → c ≠ '\\' → isControl c = false → Written c [c]
  | short {x : Char} : escaped? x = some c → Written c ['\\', x]
  | code {x y z w : Char} : namedChar? [x, y, z, w] = some c → Written c ['\\', 'u', x, y, z, w]

/-- A control character has a code point of two hexadecimal digits. -/
theorem namedChar?_hexDigit (h : isControl c = true) :
    namedChar? ['0', '0', hexDigit (c.toNat / 16), hexDigit (c.toNat % 16)] = some c := by
  have hlt : c.toNat < 0x80 := by
    simp only [isControl, Bool.or_eq_true, Bool.and_eq_true, decide_eq_true_eq, beq_iff_eq] at h
    omega
  have htable : (List.range 0x80).all (fun n =>
      namedChar? ['0', '0', hexDigit (n / 16), hexDigit (n % 16)] ==
        some (Char.ofNat n)) = true := by
    decide +kernel
  have hc := List.all_eq_true.1 htable c.toNat (List.mem_range.2 hlt)
  rwa [Char.ofNat_toNat, beq_iff_eq] at hc

theorem written_escapeChar (h : c ≠ '"') : Written c (escapeChar c) := by
  unfold escapeChar
  split_ifs with hb ht hf hr hs hcontrol
  · exact .short (by rw [hb]; rfl)
  · exact .short (by rw [ht]; rfl)
  · exact .short (by rw [hf]; rfl)
  · exact .short (by rw [hr]; rfl)
  · exact .short (by rw [hs]; rfl)
  · exact .code (namedChar?_hexDigit hcontrol)
  · exact .plain h hs (Bool.eq_false_iff.2 hcontrol)

theorem escaped?_cases {x : Char} (h : escaped? x = some c) :
    x = 'b' ∨ x = 't' ∨ x = 'n' ∨ x = 'f' ∨ x = 'r' ∨ x = '"' ∨ x = '\\' := by
  unfold escaped? at h
  split at h
  all_goals simp_all

theorem ne_of_not_isControl (h : isControl c = false) : c ≠ '\n' ∧ c ≠ '\r' := by
  constructor
  all_goals
    rintro rfl
    exact absurd h (by decide)

theorem basicTail_written (h : Written c t) (rest : List Char) :
    basicTail (t ++ rest) = consRead c (basicTail rest) := by
  cases h with
  | plain hquote hslash hcontrol => simp [basicTail, hslash, hcontrol]
  | short hescaped =>
    rcases escaped?_cases hescaped with rfl | rfl | rfl | rfl | rfl | rfl | rfl
    all_goals simp_all [basicTail]
  | code hnamed => simp [basicTail, hnamed]

theorem basicBlockTail_written (h : Written c t) (rest : List Char) :
    basicBlockTail false (t ++ rest) = consRead c (basicBlockTail false rest) := by
  cases h with
  | plain hquote hslash hcontrol =>
    obtain ⟨hfeed, hreturn⟩ := ne_of_not_isControl hcontrol
    simp_all [basicBlockTail]
  | short hescaped =>
    rcases escaped?_cases hescaped with rfl | rfl | rfl | rfl | rfl | rfl | rfl
    all_goals simp_all [basicBlockTail, blankToLineEnd, isSpace]
  | code hnamed => simp [basicBlockTail, hnamed]

theorem basicBlockTail_lineFeed (rest : List Char) :
    basicBlockTail false (['\n'] ++ rest) = consRead '\n' (basicBlockTail false rest) := by
  simp [basicBlockTail]

theorem Written.head (h : Written c t) : ∃ d u, t = d :: u ∧ d ≠ '"' ∧ d ≠ '\n' ∧ d ≠ '\r' := by
  cases h with
  | plain hquote _ hcontrol => exact ⟨c, [], rfl, hquote, ne_of_not_isControl hcontrol⟩
  | short _ => exact ⟨_, _, rfl, by decide⟩
  | code _ => exact ⟨_, _, rfl, by decide⟩

/-- Every character is written by itself, unless it is a quote or a line feed that stands for
    itself. -/
theorem escapeAll_cons (block : Bool) (run : Nat) (c : Char) (cs : List Char)
    (hquote : (c == '"' && block && decide (run < 2)) = false) :
    ∃ t, (Written c t ∨ (block = true ∧ c = '\n' ∧ t = ['\n'])) ∧
      escapeAll block run (c :: cs) = t ++ escapeAll block 0 cs := by
  by_cases hc : c = '"'
  · subst hc
    rw [escapeAll, if_neg (by simpa using hquote)]
    exact ⟨_, .inl (.short rfl), rfl⟩
  -- a line end stays as it is in a block and is escaped in a line
  · by_cases hfeed : c = '\n'
    · subst hfeed
      cases block with
      | false => exact ⟨_, .inl (.short rfl), rfl⟩
      | true => exact ⟨_, .inr ⟨rfl, rfl, rfl⟩, rfl⟩
    · refine ⟨_, .inl (written_escapeChar hc), ?_⟩
      rw [escapeAll]
      · exact fun h => hc h
      · exact fun h => hfeed h

/-! ## Quotes in a row -/

/-- The text does not go on with a quote. -/
def Closes (c : Char) (s : List Char) : Prop := s.head? ≠ some c

/-- How quotes in a row are read in a string on several lines. -/
structure BlockQuotes (q : Char) (tail : List Char → Option (List Char × List Char)) : Prop where
  /-- A single quote stands for itself. -/
  single {c : Char} : c ≠ q → ∀ rest, tail (q :: c :: rest) = consRead q (tail (c :: rest))
  /-- So do two. -/
  double {c : Char} : c ≠ q → ∀ rest,
    tail (q :: q :: c :: rest) = consRead q (tail (q :: c :: rest))
  /-- Three are the closing ones; those in front of them, up to two, stand for themselves. -/
  closing {run : Nat} {rest : List Char} : run ≤ 2 → Closes q rest →
    tail (List.replicate run q ++ (q :: q :: q :: rest)) = some (List.replicate run q, rest)

/-- A character that is no quote, with quotes pending in front of it. -/
theorem BlockQuotes.cons_read {q d : Char} {tail : List Char → Option (List Char × List Char)}
    (h : BlockQuotes q tail) {run : Nat} (hrun : run ≤ 2) (hd : d ≠ q) {u rest : List Char}
    (hread : tail (d :: u) = consRead c (some (cs, rest))) :
    tail (List.replicate run q ++ d :: u) = some (List.replicate run q ++ c :: cs, rest) := by
  match run, hrun with
  | 0, _ => exact hread
  | 1, _ =>
    refine (h.single hd u).trans ?_
    rw [hread]
    rfl
  | 2, _ =>
    refine (h.double hd u).trans ?_
    rw [h.single hd, hread]
    rfl

theorem blockQuotes_basic : BlockQuotes '"' (basicBlockTail false) where
  single hc rest := by simp [basicBlockTail, hc, show isControl '"' = false by decide]
  double hc rest := by simp [basicBlockTail, hc, show isControl '"' = false by decide]
  closing {run rest} hrun hrest := by
    have hne : ∀ s, rest ≠ '"' :: s := by
      rintro s rfl
      exact hrest rfl
    match run, hrun with
    | 0, _ => simp_all [basicBlockTail]
    | 1, _ => simp_all [basicBlockTail]
    | 2, _ => simp [basicBlockTail]

theorem blockQuotes_literal : BlockQuotes '\'' literalBlockTail where
  single hc rest := by simp [literalBlockTail, hc, show isControl '\'' = false by decide]
  double hc rest := by simp [literalBlockTail, hc, show isControl '\'' = false by decide]
  closing {run rest} hrun hrest := by
    have hne : ∀ s, rest ≠ '\'' :: s := by
      rintro s rfl
      exact hrest rfl
    match run, hrun with
    | 0, _ => simp_all [literalBlockTail]
    | 1, _ => simp_all [literalBlockTail]
    | 2, _ => simp [literalBlockTail]

/-! ## Double quotes -/

theorem basicTail_escapeAll (run : Nat) (cs rest : List Char) :
    basicTail (escapeAll false run cs ++ '"' :: rest) = some (cs, rest) := by
  induction cs generalizing run with
  | nil => rfl
  | cons c cs ih =>
    obtain ⟨t, hwritten | ⟨hblock, -⟩, ht⟩ := escapeAll_cons false run c cs (by simp)
    · rw [ht, List.append_assoc, basicTail_written hwritten, ih]
      rfl
    · cases hblock

/-- What is written in three double quotes is read back, with the quotes that are pending in front
    of it. -/
theorem basicBlockTail_escapeAll {run : Nat} (hrun : run ≤ 2) (cs : List Char)
    (hrest : Closes '"' rest) :
    basicBlockTail false
        (List.replicate run '"' ++ (escapeAll true run cs ++ ('"' :: '"' :: '"' :: rest))) =
      some (List.replicate run '"' ++ cs, rest) := by
  induction cs generalizing run with
  | nil =>
    rw [List.append_nil]
    exact blockQuotes_basic.closing hrun hrest
  | cons c cs ih =>
    cases hquote : c == '"' && true && decide (run < 2) with
    | true =>
      -- one more quote is pending
      simp only [Bool.and_true, Bool.and_eq_true, beq_iff_eq, decide_eq_true_eq] at hquote
      obtain ⟨rfl, hmore⟩ := hquote
      have hnext := ih hmore
      rw [List.replicate_succ', List.append_assoc, List.append_assoc] at hnext
      rw [escapeAll, if_pos (by simpa using hmore)]
      exact hnext
    | false =>
      obtain ⟨t, hwritten, ht⟩ := escapeAll_cons true run c cs hquote
      have hlater := ih (Nat.zero_le 2)
      have hread : ∀ s, basicBlockTail false (t ++ s) = consRead c (basicBlockTail false s) := by
        rcases hwritten with hwritten | ⟨-, rfl, rfl⟩
        · exact basicBlockTail_written hwritten
        · exact basicBlockTail_lineFeed
      obtain ⟨d, u, rfl, hd⟩ : ∃ d u, t = d :: u ∧ d ≠ '"' := by
        rcases hwritten with hwritten | ⟨-, rfl, rfl⟩
        · obtain ⟨d, u, hhead, hd, -⟩ := hwritten.head
          exact ⟨d, u, hhead, hd⟩
        · exact ⟨_, _, rfl, by decide⟩
      rw [ht, List.append_assoc]
      exact blockQuotes_basic.cons_read hrun hd ((hread _).trans (congrArg _ hlater))

/-! ## Single quotes -/

/-- What is written in single quotes is read back if it has no quotes and no control characters. -/
theorem literalTail_append (hcs : ∀ c ∈ cs, c ≠ '\'' ∧ isControl c = false) (rest : List Char) :
    literalTail (cs ++ '\'' :: rest) = some (cs, rest) := by
  induction cs with
  | nil => rfl
  | cons c cs ih =>
    obtain ⟨hquote, hcontrol⟩ := hcs c List.mem_cons_self
    have hlater := ih fun d hd => hcs d (List.mem_cons_of_mem _ hd)
    simp_all [literalTail, consRead]

theorem literalBlockTail_cons (hquote : c ≠ '\'') (hescape : needsEscape c = false)
    (rest : List Char) : literalBlockTail (c :: rest) = consRead c (literalBlockTail rest) := by
  by_cases hfeed : c = '\n'
  · subst hfeed
    simp [literalBlockTail]
  · have hcontrol : isControl c = false := by simpa [needsEscape, hfeed] using hescape
    obtain ⟨-, hreturn⟩ := ne_of_not_isControl hcontrol
    simp_all [literalBlockTail]

/-- What is written in three single quotes is read back if it has no more than two quotes in a row,
    and no control characters but line feeds. -/
theorem literalBlockTail_append {run : Nat} (hcs : ∀ c ∈ cs, needsEscape c = false)
    (hrun : longestRun '\'' run cs ≤ 2) (hrest : Closes '\'' rest) :
    literalBlockTail (List.replicate run '\'' ++ (cs ++ ('\'' :: '\'' :: '\'' :: rest))) =
      some (List.replicate run '\'' ++ cs, rest) := by
  induction cs generalizing run with
  | nil =>
    rw [List.append_nil]
    exact blockQuotes_literal.closing hrun hrest
  | cons c cs ih =>
    have hlater := fun run => @ih run fun d hd => hcs d (List.mem_cons_of_mem _ hd)
    rw [longestRun] at hrun
    by_cases hquote : c = '\''
    · -- one more quote is pending
      subst hquote
      rw [if_pos rfl] at hrun
      have hnext := hlater _ hrun
      rwa [List.replicate_succ', List.append_assoc, List.append_assoc] at hnext
    · rw [if_neg hquote] at hrun
      have hnext := hlater 0 (Nat.le_trans (Nat.le_max_right _ _) hrun)
      -- the quotes that were pending are text after all
      have hread := literalBlockTail_cons hquote (hcs c List.mem_cons_self)
      exact blockQuotes_literal.cons_read (Nat.le_trans (Nat.le_max_left _ _) hrun) hquote
        ((hread _).trans (congrArg _ hnext))

/-! ## The choice of the form -/

theorem le_longestRun (c : Char) (current : Nat) (cs : List Char) :
    current ≤ longestRun c current cs := by
  induction cs generalizing current with
  | nil => exact Nat.le_refl _
  | cons d cs ih =>
    rw [longestRun]
    split
    · exact Nat.le_of_succ_le (ih (current + 1))
    · exact Nat.le_max_left _ _

theorem not_mem_of_longestRun (h : longestRun c 0 cs = 0) : c ∉ cs := by
  induction cs with
  | nil => exact List.not_mem_nil
  | cons d cs ih =>
    rw [longestRun] at h
    split at h
    · exact absurd (h ▸ le_longestRun c (0 + 1) cs) (by decide)
    · rename_i hd
      rw [List.mem_cons, not_or]
      exact ⟨fun hc => hd hc.symm, ih (Nat.max_eq_zero_iff.1 h).2⟩

/-- Single quotes are put around a text that has none, nor control characters. -/
theorem of_literal (h : StringForm.of cs = .literal) :
    ∀ c ∈ cs, c ≠ '\'' ∧ isControl c = false := by
  unfold StringForm.of at h
  dsimp only at h
  split_ifs at h with _ hform
  simp only [Bool.and_eq_true, Bool.not_eq_true', beq_iff_eq, List.contains_eq_mem,
    decide_eq_false_iff_not] at hform
  obtain ⟨⟨hcontrols, hsingle⟩, hlines⟩ := hform
  intro c hc
  have hescape := (List.any_eq_false.1 hcontrols) c hc
  constructor
  · rintro rfl
    exact not_mem_of_longestRun hsingle hc
  -- the form is on one line, so of the characters to escape no line end is left
  · have hfeed : c ≠ '\n' := fun heq => hlines (heq ▸ hc)
    simpa [needsEscape, hfeed] using hescape

/-- Three single quotes are put around a text that has no more than two in a row, nor control
    characters but line feeds. -/
theorem of_literalBlock (h : StringForm.of cs = .literalBlock) :
    (∀ c ∈ cs, needsEscape c = false) ∧ longestRun '\'' 0 cs ≤ 2 := by
  unfold StringForm.of at h
  dsimp only at h
  split_ifs at h with _ _ _ hform
  simp only [Bool.and_eq_true, Bool.not_eq_true', decide_eq_true_eq] at hform
  exact ⟨fun c hc => Bool.eq_false_iff.2 (List.any_eq_false.1 hform.1 c hc), hform.2⟩

/-! ## Whole strings -/

theorem string_of_line {s : List Char} (hdouble : ∀ u, s ≠ '"' :: '"' :: '"' :: u)
    (hsingle : ∀ u, s ≠ '\'' :: '\'' :: '\'' :: u) :
    string s = (basicString <|> literalString) s := by
  unfold string
  split
  · exact absurd rfl (hdouble _)
  · exact absurd rfl (hsingle _)
  · rfl

/-- A text in quotes does not begin with three of them if it has none in front. -/
theorem not_three_quotes {q : Char} {body : List Char} (hbody : Closes q body)
    (hrest : Closes q rest) : ∀ u, q :: (body ++ q :: rest) ≠ q :: q :: q :: u := by
  rintro u heq
  cases body with
  | nil =>
    obtain rfl : rest = q :: u := by simpa using heq
    exact hrest rfl
  | cons d body =>
    obtain ⟨rfl, -⟩ : d = q ∧ body ++ q :: rest = q :: u := by simpa using heq
    exact hbody rfl

/-- A line end is written in front of several lines and dropped again; in front of one line there
    is none to be dropped. -/
theorem dropLineEnd_append {body : List Char}
    (hhead : '\n' ∉ cs → ∃ d u, body = d :: u ∧ d ≠ '\n' ∧ d ≠ '\r') :
    dropLineEnd ((if cs.contains '\n' then ['\n'] else []) ++ body) = body := by
  by_cases hlines : '\n' ∈ cs
  · rw [if_pos (by simpa using hlines)]
    rfl
  · obtain ⟨d, u, rfl, hfeed, hreturn⟩ := hhead hlines
    rw [if_neg (by simpa using hlines)]
    simp [dropLineEnd, hfeed, hreturn]

variable {text : String}

theorem string_basic (h : StringForm.of text.toList = .basic) (hrest : Closes '"' rest) :
    string (writeString text ++ rest) = some (text, rest) := by
  have hwrite : writeString text ++ rest =
      '"' :: (escapeAll false 0 text.toList ++ '"' :: rest) := by
    simp [writeString, h, StringForm.quotes, StringForm.isBlock, StringForm.escapes]
  -- the body begins with no quote, so the string does not begin with three
  have hbody : Closes '"' (escapeAll false 0 text.toList) := by
    cases text.toList with
    | nil => simp [escapeAll, Closes]
    | cons c cs =>
      obtain ⟨t, hwritten | ⟨hblock, -⟩, ht⟩ := escapeAll_cons false 0 c cs (by simp)
      · obtain ⟨d, u, rfl, hd, -⟩ := hwritten.head
        simpa [ht, Closes] using hd
      · cases hblock
  rw [hwrite, string_of_line (not_three_quotes hbody hrest) (by simp)]
  refine orElse_of_some ?_ _
  show (basicTail _).map _ = _
  rw [basicTail_escapeAll]
  simp

theorem string_literal (h : StringForm.of text.toList = .literal) (hrest : Closes '\'' rest) :
    string (writeString text ++ rest) = some (text, rest) := by
  have hwrite : writeString text ++ rest = '\'' :: (text.toList ++ '\'' :: rest) := by
    simp [writeString, h, StringForm.quotes, StringForm.isBlock, StringForm.escapes]
  have hchars := of_literal h
  have hbody : Closes '\'' text.toList := fun heq => (hchars _ (List.mem_of_mem_head? heq)).1 rfl
  rw [hwrite, string_of_line (by simp) (not_three_quotes hbody hrest)]
  refine (orElse_of_none rfl _).trans ?_
  show (literalTail _).map _ = _
  rw [literalTail_append hchars]
  simp

theorem string_basicBlock (h : StringForm.of text.toList = .basicBlock) (hrest : Closes '"' rest) :
    string (writeString text ++ rest) = some (text, rest) := by
  have hwrite : writeString text ++ rest = '"' :: '"' :: '"' ::
      ((if text.toList.contains '\n' then ['\n'] else []) ++
        (escapeAll true 0 text.toList ++ '"' :: '"' :: '"' :: rest)) := by
    simp [writeString, h, StringForm.quotes, StringForm.isBlock, StringForm.escapes]
  have hread := basicBlockTail_escapeAll (Nat.zero_le 2) text.toList hrest
  rw [List.replicate_zero, List.nil_append, List.nil_append] at hread
  rw [hwrite]
  show (basicBlockTail false (dropLineEnd _)).map _ = _
  rw [dropLineEnd_append, hread]
  · simp
  -- a line end is written in front unless the text has none; then none is taken away
  · intro hlines
    cases hcs : text.toList with
    | nil => exact ⟨_, _, rfl, by decide⟩
    | cons c cs =>
      rw [hcs, List.mem_cons, not_or] at hlines
      cases hquote : c == '"' && true && decide (0 < 2) with
      | true =>
        obtain rfl : c = '"' := by simpa using hquote
        exact ⟨_, _, rfl, by decide⟩
      | false =>
        obtain ⟨t, hwritten | ⟨-, rfl, -⟩, ht⟩ := escapeAll_cons true 0 c cs hquote
        · obtain ⟨d, u, rfl, -, hd⟩ := hwritten.head
          rw [ht]
          exact ⟨d, _, rfl, hd⟩
        · exact absurd rfl hlines.1

theorem string_literalBlock (h : StringForm.of text.toList = .literalBlock)
    (hrest : Closes '\'' rest) : string (writeString text ++ rest) = some (text, rest) := by
  have hwrite : writeString text ++ rest = '\'' :: '\'' :: '\'' ::
      ((if text.toList.contains '\n' then ['\n'] else []) ++
        (text.toList ++ '\'' :: '\'' :: '\'' :: rest)) := by
    simp [writeString, h, StringForm.quotes, StringForm.isBlock, StringForm.escapes]
  obtain ⟨hchars, hruns⟩ := of_literalBlock h
  have hread := literalBlockTail_append hchars hruns hrest
  rw [List.replicate_zero, List.nil_append, List.nil_append] at hread
  rw [hwrite]
  show (literalBlockTail (dropLineEnd _)).map _ = _
  rw [dropLineEnd_append, hread]
  · simp
  -- a line end is written in front unless the text has none; then none is taken away
  · intro hlines
    cases hcs : text.toList with
    | nil => exact ⟨_, _, rfl, by decide⟩
    | cons c cs =>
      rw [hcs] at hlines hchars
      refine ⟨c, _, rfl, fun hfeed => hlines (hfeed ▸ List.mem_cons_self), ?_⟩
      rintro rfl
      exact absurd (hchars _ List.mem_cons_self) (by decide)

/-- **Strings read back**: a string is read as it was written, whatever characters it has. -/
theorem string_writeString (text : String) (hdouble : Closes '"' rest)
    (hsingle : Closes '\'' rest) : string (writeString text ++ rest) = some (text, rest) := by
  cases hform : StringForm.of text.toList with
  | basic => exact string_basic hform hdouble
  | literal => exact string_literal hform hsingle
  | basicBlock => exact string_basicBlock hform hdouble
  | literalBlock => exact string_literalBlock hform hsingle

end Rehearsal.Toml
