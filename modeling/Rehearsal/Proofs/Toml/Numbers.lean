import Mathlib.Tactic.SplitIfs
import Rehearsal.Proofs.Number.Digits
import Rehearsal.Proofs.Number.ShortestDigits
import Rehearsal.Proofs.Toml.Readers
import Rehearsal.Toml.Scalar
import Rehearsal.Toml.Writer

/-! # Numbers and truth values read back

  What is written for a number could be the beginning of something else: a date begins with four
  digits, a time with two, a fraction with a whole number. These come first when a value is read, so
  each of them has to be refused, and the end of the line behind the number is what refuses them.

  A floating-point number is always written with a point. Behind a whole number stands one zero,
  which does not change the value.

  Main statements: `scalar_digitsOf`, `scalar_writeBool`, `scalar_writeFloat`.
-/

namespace Rehearsal.Toml

open Reader Number

variable {c d : Char} {ds s rest : List Char}

/-! ## Kinds that the first character refuses -/

theorem string_of_head (hdouble : c ≠ '"') (hsingle : c ≠ '\'') (s : List Char) :
    string (c :: s) = none := by
  have hbasic : basicString (c :: s) = none := by simp [basicString, hdouble]
  have hliteral : literalString (c :: s) = none := by simp [literalString, hsingle]
  rw [string]
  · exact (orElse_of_none hbasic _).trans hliteral
  · simp [hdouble]
  · simp [hsingle]

theorem boolean_of_head (ht : c ≠ 't') (hf : c ≠ 'f') (s : List Char) : boolean (c :: s) = none :=
  (orElse_of_none (bind_of_none (exactly_of_ne ht _ s) _) _).trans
    (bind_of_none (exactly_of_ne hf _ s) _)

theorem digits_of_head (count : Nat) (h : c.isDigit = false) (s : List Char) :
    digits (count + 1) (c :: s) = none := by
  simp [digits, h]

theorem taken_of_none {α : Type} {r : Reader α} (h : r s = none) : taken r s = none :=
  (bind_of_some (get_apply s) _).trans (bind_of_none h _)

theorem datetime_of_head (h : c.isDigit = false) (s : List Char) : datetime (c :: s) = none := by
  refine bind_of_none (taken_of_none ?_) _
  refine (orElse_of_none (bind_of_none (bind_of_none (digits_of_head 3 h s) _) _) _).trans ?_
  exact bind_of_none (bind_of_none (digits_of_head 1 h s) _) _

/-! ## Digits -/

theorem leadingDigit_eq (c : Char) :
    (decide ('1' ≤ c) && decide (c ≤ '9')) = (c.isDigit && c != '0') := by
  have hzero : c = '0' ↔ c.toNat = 48 := Char.toNat_inj.symm
  rw [Bool.eq_iff_iff]
  simp only [Bool.and_eq_true, decide_eq_true_eq, bne_iff_ne, ne_eq, hzero, Char.isDigit,
    Char.le_def, UInt32.le_iff_toNat_le]
  change 49 ≤ c.toNat ∧ c.toNat ≤ 57 ↔ (48 ≤ c.toNat ∧ c.toNat ≤ 57) ∧ ¬ c.toNat = 48
  omega

theorem digitRun_many (hds : ∀ x ∈ ds, x.isDigit = true) (hc : c.isDigit = false) (hlow : c ≠ '_')
    (s : List Char) :
    many (one Char.isDigit <|> (do char '_'; one Char.isDigit)) (ds ++ c :: s) =
      some (ds, c :: s) :=
  many_of_chars (fun x hx rest => orElse_of_some (one_of_pos (hds x hx) rest) _)
    ((orElse_of_none (one_of_neg hc s) _).trans (bind_of_none (char_of_ne hlow s) _))

theorem digitRun_append (hne : ds ≠ []) (hds : ∀ x ∈ ds, x.isDigit = true) (hc : c.isDigit = false)
    (hlow : c ≠ '_') (s : List Char) :
    digitRun Char.isDigit (ds ++ c :: s) = some (ds, c :: s) := by
  obtain ⟨d, ds, rfl⟩ := List.exists_cons_of_ne_nil hne
  rw [List.forall_mem_cons] at hds
  exact (bind_of_some (one_of_pos hds.1 _) _).trans (bind_of_some (digitRun_many hds.2 hc hlow s) _)

theorem wholeDigits_append (h : IsNumeral ds) (hc : c.isDigit = false) (hlow : c ≠ '_')
    (s : List Char) : wholeDigits (ds ++ c :: s) = some (ds, c :: s) := by
  obtain ⟨d, ds, rfl⟩ := List.exists_cons_of_ne_nil h.ne_nil
  have hds := List.forall_mem_cons.1 h.isDigit
  -- a zero in front is the whole numeral; any other digit may have more behind it
  by_cases hzero : d = '0'
  · subst hzero
    rw [h.zero rfl]
    rfl
  · have hfirst : (decide ('1' ≤ d) && decide (d ≤ '9')) = true := by
      rw [leadingDigit_eq]
      simpa [hds.1] using hzero
    exact orElse_of_some ((bind_of_some (one_of_pos hfirst _) _).trans
      (bind_of_some (digitRun_many hds.2 hc hlow s) _)) _

theorem wholeDigits_of_head (h : c.isDigit = false) (s : List Char) :
    wholeDigits (c :: s) = none := by
  have hleading : (decide ('1' ≤ c) && decide (c ≤ '9')) = false := by
    rw [leadingDigit_eq, h]
    rfl
  have hzero : (c == '0') = false := by
    rw [beq_eq_false_iff_ne]
    rintro rfl
    exact absurd h (by decide)
  exact (orElse_of_none (bind_of_none (one_of_neg hleading s) _) _).trans
    (bind_of_none (one_of_neg (p := (· == '0')) hzero s) _)

theorem signed_sign (negative : Bool) (hplus : c ≠ '+') (hminus : c ≠ '-') (s : List Char) :
    signed (sign negative ++ c :: s) = some (negative, c :: s) := by
  cases negative with
  | true => rfl
  | false =>
    refine bind_of_some (optional_of_none (one_of_neg ?_ s)) _
    simp [hplus, hminus]

/-! ## Dates and times refused -/

/-- Behind as many digits as a date or a time begins with there is no mark, if there is none behind
    all digits. -/
theorem char_after_digits {mark : Char} {n count : Nat} (hds : ∀ x ∈ ds, x.isDigit = true)
    (hc : c.isDigit = false) (hmark : mark.isDigit = false) (hne : c ≠ mark)
    (h : digits count (ds ++ c :: s) = some (n, rest)) : char mark rest = none := by
  unfold digits at h
  dsimp only at h
  split_ifs at h with hcount
  obtain ⟨-, rfl⟩ : _ ∧ (ds ++ c :: s).drop count = rest := by simpa using h
  -- `c` is no digit, so not so many are read that it is among them
  have hle : count ≤ ds.length := by
    by_contra hlt
    obtain ⟨k, rfl⟩ : ∃ k, count = ds.length + (k + 1) := ⟨count - ds.length - 1, by omega⟩
    have hdigit := List.all_eq_true.1 hcount.2 c (by simp [List.take_append])
    exact absurd hdigit (by simp [hc])
  rw [List.drop_append_of_le_length hle]
  -- next comes `c`, or a digit that was left over; neither is the mark
  cases hdrop : ds.drop count with
  | nil => exact char_of_ne hne s
  | cons d later =>
    have hd := hds d (List.mem_of_mem_drop (hdrop ▸ List.mem_cons_self))
    refine char_of_ne ?_ _
    rintro rfl
    exact absurd hmark (by simp [hd])

theorem digits_of_twoDigits {low high : Nat} {x : Nat × List Char}
    (h : twoDigits low high s = some x) : digits 2 s = some x := by
  cases hread : digits 2 s with
  | none => exact absurd ((bind_of_none hread _).symm.trans h) (by simp)
  | some y =>
    have hbound := (bind_of_some hread _).symm.trans h
    split at hbound
    · exact hbound
    · cases hbound

theorem datetime_of_digits (hds : ∀ x ∈ ds, x.isDigit = true) (hc : c.isDigit = false)
    (hdash : c ≠ '-') (hcolon : c ≠ ':') (s : List Char) : datetime (ds ++ c :: s) = none := by
  refine bind_of_none (taken_of_none ?_) _
  -- a year would need a dash behind it
  have hdate : date (ds ++ c :: s) = none := by
    cases hyear : digits 4 (ds ++ c :: s) with
    | none => exact bind_of_none hyear _
    | some x =>
      exact (bind_of_some hyear _).trans
        (bind_of_none (char_after_digits hds hc (by decide) hdash hyear) _)
  -- and an hour a colon
  have htime : time (ds ++ c :: s) = none := by
    cases hhour : twoDigits 0 23 (ds ++ c :: s) with
    | none => exact bind_of_none hhour _
    | some x =>
      have hmark := char_after_digits hds hc (by decide) hcolon (digits_of_twoDigits hhour)
      exact (bind_of_some hhour _).trans (bind_of_none hmark _)
  exact (orElse_of_none (bind_of_none hdate _) _).trans htime

/-! ## Numbers -/

theorem ne_of_isDigit (hc : c.isDigit = true) (hd : d.isDigit = false) : c ≠ d := by
  rintro rfl
  exact absurd hc (by simp [hd])

theorem signed_append (negative : Bool) (h : IsNumeral ds) (s : List Char) :
    signed (sign negative ++ (ds ++ s)) = some (negative, ds ++ s) := by
  obtain ⟨d, ds, rfl⟩ := List.exists_cons_of_ne_nil h.ne_nil
  have hd := h.isDigit d List.mem_cons_self
  exact signed_sign negative (ne_of_isDigit hd rfl) (ne_of_isDigit hd rfl) _

/-- A number is no text, no truth value and no date. -/
theorem scalar_number (negative : Bool) (h : IsNumeral ds) (hc : c.isDigit = false)
    (hdash : c ≠ '-') (hcolon : c ≠ ':') (s : List Char) :
    scalar (sign negative ++ (ds ++ c :: s)) =
      (decimal <|> specialFloat <|> integer) (sign negative ++ (ds ++ c :: s)) := by
  have hdate : datetime (sign negative ++ (ds ++ c :: s)) = none := by
    cases negative with
    | true => exact datetime_of_head rfl _
    | false => exact datetime_of_digits h.isDigit hc hdash hcolon s
  obtain ⟨d, later, hhead, hd⟩ : ∃ d later, sign negative ++ (ds ++ c :: s) = d :: later ∧
      (d = '-' ∨ d.isDigit = true) := by
    cases negative with
    | true => exact ⟨_, _, rfl, .inl rfl⟩
    | false =>
      obtain ⟨d, ds, rfl⟩ := List.exists_cons_of_ne_nil h.ne_nil
      exact ⟨_, _, rfl, .inr (h.isDigit d List.mem_cons_self)⟩
  -- strings and truth values begin with a character that is neither a sign nor a digit
  have hne : ∀ x : Char, x ≠ '-' → x.isDigit = false → d ≠ x := by
    intro x hdash hx
    obtain rfl | hdigit := hd
    · exact hdash.symm
    · exact ne_of_isDigit hdigit hx
  rw [hhead] at hdate ⊢
  have hstring := string_of_head (hne '"' (by decide) rfl) (hne '\'' (by decide) rfl) later
  have hboolean := boolean_of_head (hne 't' (by decide) rfl) (hne 'f' (by decide) rfl) later
  refine (orElse_of_none ?_ _).trans ((orElse_of_none hboolean _).trans (orElse_of_none hdate _))
  rw [map_apply, hstring]
  rfl

/-! ### Whole numbers -/

theorem decimal_whole (h : IsNumeral ds) (s : List Char) : decimal (ds ++ '\n' :: s) = none := by
  refine (bind_of_some (signed_append false h _) _).trans ?_
  refine (bind_of_some (wholeDigits_append h rfl (by decide) s) _).trans ?_
  exact bind_of_none rfl _

theorem specialFloat_whole (h : IsNumeral ds) (s : List Char) : specialFloat (ds ++ s) = none := by
  refine (bind_of_some (signed_append false h s) _).trans ?_
  obtain ⟨d, ds, rfl⟩ := List.exists_cons_of_ne_nil h.ne_nil
  have hd := h.isDigit d List.mem_cons_self
  refine bind_of_none ?_ _
  exact (orElse_of_none (bind_of_none (exactly_of_ne (ne_of_isDigit hd rfl) _ _) _) _).trans
    (bind_of_none (exactly_of_ne (ne_of_isDigit hd rfl) _ _) _)

theorem inBase_whole (h : IsNumeral ds) {mark : Char} (hfeed : '\n' ≠ mark) (base : Nat)
    (p : Char → Bool) (s : List Char) : inBase mark base p (ds ++ '\n' :: s) = none := by
  obtain ⟨d, ds, rfl⟩ := List.exists_cons_of_ne_nil h.ne_nil
  by_cases hzero : d = '0'
  · subst hzero
    rw [h.zero rfl]
    exact (bind_of_some (char_cons '0' _) _).trans (bind_of_none (char_of_ne hfeed s) _)
  · exact bind_of_none (char_of_ne hzero _) _

theorem wholeNumber_append (h : IsNumeral ds) (s : List Char) :
    wholeNumber (ds ++ '\n' :: s) = some ((ofDigits ds : Int), '\n' :: s) := by
  refine (bind_of_some (signed_append false h _) _).trans ?_
  exact (bind_of_some (wholeDigits_append h rfl (by decide) s) _).trans rfl

/-- **Whole numbers read back**: a count of sixty-three bits is read as it was written. -/
theorem scalar_digitsOf {n : Nat} (hn : n < twoPow 63) (s : List Char) :
    scalar (digitsOf n ++ '\n' :: s) = some (.integer n, '\n' :: s) := by
  have h := isNumeral_digitsOf n
  refine (scalar_number false h rfl (by decide) (by decide) s).trans ?_
  refine (orElse_of_none (decimal_whole h s) _).trans ?_
  refine (orElse_of_none (specialFloat_whole h _) _).trans ?_
  have hread := wholeNumber_append h s
  rw [ofDigits_digitsOf] at hread
  refine (bind_of_some ((orElse_of_none (inBase_whole h (by decide) 16 isHex s) _).trans
    ((orElse_of_none (inBase_whole h (by decide) 8 _ s) _).trans
    ((orElse_of_none (inBase_whole h (by decide) 2 _ s) _).trans hread))) _).trans ?_
  rw [if_pos (by omega)]
  rfl

/-! ### Fractions -/

/-- A number with a point is read as the datum nearest to its decimal, unless that is infinite. -/
theorem decimal_pointed {whole fraction : List Char} (negative : Bool) (hwhole : IsNumeral whole)
    (hne : fraction ≠ []) (hfraction : ∀ c ∈ fraction, c.isDigit = true) {x : Binary64}
    (hx : .ofDecimal negative (ofDigits (whole ++ fraction)) (-(fraction.length : Int)) = x)
    (hfinite : x.magnitude ≠ .infinite) (s : List Char) :
    decimal (sign negative ++ (whole ++ '.' :: (fraction ++ '\n' :: s))) =
      some (.float x, '\n' :: s) := by
  refine (bind_of_some (signed_append negative hwhole _) _).trans ?_
  refine (bind_of_some (wholeDigits_append hwhole rfl (by decide) _) _).trans ?_
  have hpoint : fractionDigits ('.' :: (fraction ++ '\n' :: s)) = some (fraction, '\n' :: s) :=
    (bind_of_some (char_cons '.' _) _).trans (digitRun_append hne hfraction rfl (by decide) s)
  have hpower : optional exponent ('\n' :: s) = some (none, '\n' :: s) := optional_of_none rfl
  refine (bind_of_some ((orElse_of_none rfl _).trans
    ((bind_of_some hpoint _).trans (bind_of_some hpower _))) _).trans ?_
  simp only [Option.getD_none, Int.zero_sub, hx]
  -- a number beyond all that can be stored would be refused
  have hother : x ≠ ⟨false, .infinite⟩ := by
    rintro rfl
    exact hfinite rfl
  rw [if_neg hother]
  rfl

/-- The text of a decimal with a point in any case, taken apart. -/
theorem pointed_spec (s : Scientific) :
    ∃ whole fraction, (if s.isWhole then s.positional ++ ['.', '0'] else s.positional) =
        whole ++ '.' :: fraction ∧ IsNumeral whole ∧ fraction ≠ [] ∧
      (∀ c ∈ fraction, c.isDigit = true) ∧
      ∀ negative, Binary64.ofDecimal negative (ofDigits (whole ++ fraction))
        (-(fraction.length : Int)) = .ofDecimal negative s.digits s.exponent := by
  by_cases hwhole : 0 ≤ s.exponent
  · refine ⟨digitsOf (s.digits * tenPow s.exponent.toNat), ['0'], ?_, isNumeral_digitsOf _,
      List.cons_ne_nil _ _, List.forall_mem_singleton.2 rfl, fun negative => ?_⟩
    · simp [Scientific.isWhole, Scientific.positional, hwhole]
    · -- one more digit, and one less in the exponent
      have hshift :=
        Binary64.ofDecimal_mul_tenPow negative s.digits s.exponent (s.exponent.toNat + 1)
      have hexponent : s.exponent - ((s.exponent.toNat + 1 : Nat) : Int) = -1 := by omega
      rw [hexponent, tenPow_succ, ← Nat.mul_assoc] at hshift
      rw [ofDigits_concat, ofDigits_digitsOf]
      exact hshift
  · have hplaces : 0 < (-s.exponent).toNat := by omega
    obtain ⟨whole, fraction, htext, hnumeral, hlength, hdigits, hunits⟩ :=
      withPoint_spec hplaces s.digits
    refine ⟨whole, fraction, ?_, hnumeral, ?_, hdigits, fun negative => ?_⟩
    · simp [Scientific.isWhole, Scientific.positional, hwhole, htext]
    -- there is a place after the point, so digits stand there
    · rintro rfl
      exact absurd hlength (by simp; omega)
    · have hexponent : -(fraction.length : Int) = s.exponent := by omega
      rw [hunits, hexponent]

theorem scalar_infinite (negative : Bool) (s : List Char) :
    scalar (sign negative ++ ('i' :: 'n' :: 'f' :: '\n' :: s)) =
      some (.float ⟨negative, .infinite⟩, '\n' :: s) := by
  cases negative <;> rfl

/-- **Floating-point numbers read back**: a number is read as it was written, its sign included. -/
theorem scalar_writeFloat {x : Binary64} (hx : x.Canonical) (hnumber : x.isUndefined = false)
    (s : List Char) : scalar (writeFloat x ++ '\n' :: s) = some (.float x, '\n' :: s) := by
  obtain ⟨negative, magnitude⟩ := x
  cases magnitude with
  | undefined => cases hnumber
  | infinite =>
    have h := scalar_infinite negative s
    simpa [writeFloat] using h
  | finite mantissa exponent =>
    -- its shortest digits are read back, and the point among them changes no value
    obtain ⟨whole, fraction, htext, hwhole, hne, hfraction, hvalue⟩ :=
      pointed_spec (shortestDigits mantissa exponent)
    have hback : Binary64.ofDecimal negative (shortestDigits mantissa exponent).digits
        (shortestDigits mantissa exponent).exponent = ⟨negative, .finite mantissa exponent⟩ := by
      rw [Binary64.ofDecimal_sign, shortestDigits_reads_back hx]
    have hdecimal := decimal_pointed negative hwhole hne hfraction ((hvalue negative).trans hback)
      (by simp) s
    have hwrite : writeFloat ⟨negative, .finite mantissa exponent⟩ ++ '\n' :: s =
        sign negative ++ (whole ++ '.' :: (fraction ++ '\n' :: s)) := by
      simp [writeFloat, htext]
    rw [hwrite]
    exact (scalar_number negative hwhole rfl (by decide) (by decide) _).trans
      (orElse_of_some hdecimal _)

/-! ## Truth values -/

/-- **Truth values read back**. -/
theorem scalar_writeBool (b : Bool) (s : List Char) :
    scalar (writeBool b ++ '\n' :: s) = some (.boolean b, '\n' :: s) := by
  cases b <;> rfl

/-! ## What no single value begins with -/

/-- A value begins with a digit, a sign, a quote or a letter. -/
theorem scalar_of_head (hc : c.isDigit = false)
    (hne : c ∉ ['"', '\'', 't', 'f', '+', '-', 'i', 'n']) (s : List Char) :
    scalar (c :: s) = none := by
  simp only [List.mem_cons, List.not_mem_nil, or_false, not_or] at hne
  obtain ⟨hdouble, hsingle, ht, hf, hplus, hminus, hi, hn⟩ := hne
  -- every form is refused for its first character; numbers have no digit after the sign
  have hsigned : signed (c :: s) = some (false, c :: s) := signed_sign false hplus hminus s
  have hwhole := wholeDigits_of_head hc s
  have hstring : (Value.string <$> string) (c :: s) = none := by
    rw [map_apply, string_of_head hdouble hsingle]
    rfl
  have hspecial : specialFloat (c :: s) = none := by
    refine (bind_of_some hsigned _).trans (bind_of_none ?_ _)
    exact (orElse_of_none (bind_of_none (exactly_of_ne hi _ s) _) _).trans
      (bind_of_none (exactly_of_ne hn _ s) _)
  have hbase : ∀ mark base p, inBase mark base p (c :: s) = none := fun _ _ _ =>
    bind_of_none (char_of_ne (ne_of_isDigit rfl hc).symm s) _
  have hinteger : integer (c :: s) = none := by
    refine bind_of_none ((orElse_of_none (hbase _ _ _) _).trans ?_) _
    refine (orElse_of_none (hbase _ _ _) _).trans ((orElse_of_none (hbase _ _ _) _).trans ?_)
    exact (bind_of_some hsigned _).trans (bind_of_none hwhole _)
  refine (orElse_of_none hstring _).trans ((orElse_of_none (boolean_of_head ht hf s) _).trans ?_)
  refine (orElse_of_none (datetime_of_head hc s) _).trans ?_
  refine (orElse_of_none ((bind_of_some hsigned _).trans (bind_of_none hwhole _)) _).trans ?_
  exact (orElse_of_none hspecial _).trans hinteger

end Rehearsal.Toml
