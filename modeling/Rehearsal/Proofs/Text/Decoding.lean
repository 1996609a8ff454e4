import Mathlib
import Rehearsal.Proofs.Text.ByteOrder
import Rehearsal.Text.Utf8

/-! # Decoding line by line

  A byte of basic Latin is never a part of another character. Wherever the decoder stands, such a
  byte ends the character in progress, is written as it is, and leaves the decoder between
  characters again. So what stands in front of the byte and what follows it can be decoded apart
  from each other.

  A line feed is also written for no other byte. The invariant that carries this is
  `Decoder.Sound`: the next byte that the decoder accepts lies beyond basic Latin, and the bits
  read with it make a number that is no line feed and grows from byte to byte.

  The bytes of a text are decoded to that text (`decodeUtf8_bytes`): from between characters, the
  decoder takes the bytes of one character, writes it, and is between characters again.

  Main statement: `splitOn_decodeUtf8`, a text is decoded line by line.
-/

namespace Rehearsal.Text

/-- A list is cut at one of its entries, part by part: a statement holds of every list if it holds
    of the lists without the entry, and of such a list, the entry and a list of which it holds. -/
@[elab_as_elim]
theorem cutInduction {α : Type} (a : α) {motive : List α → Prop}
    (last : ∀ xs, a ∉ xs → motive xs)
    (cut : ∀ xs ys, a ∉ xs → motive ys → motive (xs ++ a :: ys)) (xs : List α) : motive xs := by
  by_cases h : a ∈ xs
  · obtain ⟨front, back, hsplit, hfront⟩ := List.eq_append_cons_of_mem h
    have hback : motive back := cutInduction a last cut back
    rw [hsplit]
    exact cut front back hfront hback
  · exact last xs h
termination_by xs.length
decreasing_by
  rw [hsplit, List.length_append, List.length_cons]
  omega

namespace Decoder

variable {d : Decoder} {owed low high value b : Nat}

theorem run_cons (d : Decoder) (b : UInt8) (bytes : List UInt8) :
    d.run (b :: bytes) = (d.step b.toNat).1 ++ (d.step b.toNat).2.run bytes := rfl

/-! ## One more byte inside of a character -/

/-- The last byte of a character. -/
theorem step_last (hb : low ≤ b ∧ b ≤ high) :
    (inside 0 low high value).step b = ([Char.ofNat (value * 64 + (b - 0x80))], .start) := by
  simp only [step, if_pos hb]

/-- A byte inside of a character. -/
theorem step_more (hb : low ≤ b ∧ b ≤ high) : (inside (owed + 1) low high value).step b =
    ([], .inside owed 0x80 0xBF (value * 64 + (b - 0x80))) := by
  simp only [step, if_pos hb]

/-- A byte that cannot go on with the character. -/
theorem step_broken (hb : ¬ (low ≤ b ∧ b ≤ high)) : (inside owed low high value).step b =
    (replacement :: (first b).1, (first b).2) := by
  simp only [step, if_neg hb]

/-! ## Where the decoder can stand -/

/-- What is known inside of a character: the next byte is beyond basic Latin, and with the bits
    of that byte the number read so far is sixteen at least. -/
def Sound : Decoder → Prop
  | .start => True
  | .inside _ low _ value => 0x80 ≤ low ∧ 0x10 ≤ value * 64 + (low - 0x80)

theorem sound_first (b : Nat) : (first b).2.Sound := by
  unfold first
  split_ifs
  all_goals simp only [Sound]
  all_goals omega

theorem Sound.step (h : d.Sound) (b : Nat) : (d.step b).2.Sound := by
  cases d with
  | start => exact sound_first b
  | inside owed low high value =>
    obtain ⟨hlow, hbits⟩ := h
    by_cases hb : low ≤ b ∧ b ≤ high
    · cases owed with
      | zero =>
        rw [step_last hb]
        trivial
      | succ owed =>
        -- six more bits are read, so the number has grown
        rw [step_more hb]
        simp only [Sound]
        omega
    · rw [step_broken hb]
      exact sound_first b

/-! ## Bytes of basic Latin -/

theorem first_of_latin (hb : b ≤ 0x7F) : first b = ([Char.ofNat b], .start) := by
  unfold first
  rw [if_pos hb]

/-- A byte of basic Latin ends the character in progress and stands for itself. -/
theorem Sound.step_of_latin (h : d.Sound) (hb : b ≤ 0x7F) :
    d.step b = (d.finish ++ [Char.ofNat b], .start) := by
  cases d with
  | start => exact first_of_latin hb
  | inside owed low high value =>
    have hbroken : ¬ (low ≤ b ∧ b ≤ high) := by
      intro hin
      have hlow := h.1
      omega
    rw [step_broken hbroken, first_of_latin hb]
    rfl

/-- What follows a byte of basic Latin is decoded as if nothing came before it. -/
theorem Sound.run_append_latin (h : d.Sound) (front back : List UInt8) {b : UInt8}
    (hb : b.toNat ≤ 0x7F) :
    d.run (front ++ b :: back) = d.run front ++ Char.ofNat b.toNat :: run .start back := by
  induction front generalizing d with
  | nil =>
    rw [List.nil_append, run_cons, h.step_of_latin hb, List.append_assoc, List.singleton_append]
    rfl
  | cons a front ih =>
    rw [List.cons_append, run_cons, run_cons, ih (h.step a.toNat), List.append_assoc]

/-! ## Line feeds -/

theorem lineFeed_not_mem_finish (d : Decoder) : '\n' ∉ d.finish := by
  cases d with
  | start => exact List.not_mem_nil
  | inside owed low high value => simp [finish, replacement]

/-- A number that is no line feed is written as another character. -/
theorem ofNat_ne_lineFeed {n : Nat} (h : n ≠ 0x0A) : Char.ofNat n ≠ '\n' := by
  intro heq
  have hnumber : (Char.ofNat n).toNat = 0x0A := congrArg Char.toNat heq
  rw [Char.toNat_ofNat] at hnumber
  by_cases hvalid : n.isValidChar
  · rw [if_pos hvalid] at hnumber
    exact h hnumber
  · -- a number that belongs to no character is written as number zero
    rw [if_neg hvalid] at hnumber
    exact absurd hnumber (by decide)

theorem lineFeed_not_mem_first (hb : b ≠ 0x0A) : '\n' ∉ (first b).1 := by
  have hself : '\n' ≠ Char.ofNat b := (ofNat_ne_lineFeed hb).symm
  unfold first
  split_ifs
  all_goals simp [replacement, hself]

theorem Sound.lineFeed_not_mem_step (h : d.Sound) (hb : b ≠ 0x0A) : '\n' ∉ (d.step b).1 := by
  cases d with
  | start => exact lineFeed_not_mem_first hb
  | inside owed low high value =>
    obtain ⟨hlow, hbits⟩ := h
    by_cases hin : low ≤ b ∧ b ≤ high
    · cases owed with
      | zero =>
        -- inside a character the value is beyond basic Latin
        have hself : Char.ofNat (value * 64 + (b - 0x80)) ≠ '\n' := ofNat_ne_lineFeed (by omega)
        rw [step_last hin, List.mem_singleton]
        exact hself.symm
      | succ owed =>
        rw [step_more hin]
        exact List.not_mem_nil
    · rw [step_broken hin, List.mem_cons, not_or]
      exact ⟨by decide, lineFeed_not_mem_first hb⟩

theorem Sound.lineFeed_not_mem_run (h : d.Sound) {bytes : List UInt8} (hbytes : 0x0A ∉ bytes) :
    '\n' ∉ d.run bytes := by
  induction bytes generalizing d with
  | nil => exact lineFeed_not_mem_finish d
  | cons b bytes ih =>
    rw [List.mem_cons, not_or] at hbytes
    obtain ⟨hb, hrest⟩ := hbytes
    have hnumber : b.toNat ≠ 0x0A := by
      intro heq
      exact hb (UInt8.toNat_inj.1 heq).symm
    rw [run_cons, List.mem_append, not_or]
    exact ⟨h.lineFeed_not_mem_step hnumber, ih (h.step b.toNat) hrest⟩

/-! ## The bytes of a character -/

theorem run_byte (hb : b < 256) (d : Decoder) (bytes : List UInt8) :
    d.run (UInt8.ofNat b :: bytes) = (d.step b).1 ++ (d.step b).2.run bytes := by
  rw [run_cons, UInt8.toNat_ofNat', Nat.mod_eq_of_lt hb]

/-- One of the last bytes of a character, with the next six bits of its number. -/
theorem run_more {n : Nat} (hlow : low ≤ n % 64 + 128) (hhigh : n % 64 + 128 ≤ high)
    (bytes : List UInt8) :
    run (.inside (owed + 1) low high (n / 64)) (UInt8.ofNat (n % 64 + 128) :: bytes) =
      run (.inside owed 0x80 0xBF n) bytes := by
  have hbits : n / 64 * 64 + (n % 64 + 128 - 0x80) = n := by omega
  rw [run_byte (by omega), step_more ⟨hlow, hhigh⟩, hbits]
  rfl

/-- The last byte of a character. -/
theorem run_last {n : Nat} (hlow : low ≤ n % 64 + 128) (hhigh : n % 64 + 128 ≤ high)
    (bytes : List UInt8) :
    run (.inside 0 low high (n / 64)) (UInt8.ofNat (n % 64 + 128) :: bytes) =
      Char.ofNat n :: run .start bytes := by
  have hbits : n / 64 * 64 + (n % 64 + 128 - 0x80) = n := by omega
  rw [run_byte (by omega), step_last ⟨hlow, hhigh⟩, hbits]
  rfl

theorem first_of_two {n : Nat} (hlow : 0x80 ≤ n) (hhigh : n ≤ 0x7FF) :
    first (n / 64 % 32 + 192) = ([], .inside 0 0x80 0xBF (n / 64)) := by
  have hbits : n / 64 % 32 + 192 - 0xC0 = n / 64 := by omega
  rw [first, if_neg (by omega), if_pos (by omega), hbits]

/-- The first of three bytes leaves open no second byte but those of characters: none of a number
    that two bytes are enough for, and none of the numbers that belong to no character. -/
theorem first_of_three {n : Nat} (hlow : 0x800 ≤ n) (hhigh : n ≤ 0xFFFF)
    (hvalid : n < 0xD800 ∨ 0xDFFF < n) :
    ∃ low high, first (n / 4096 % 16 + 224) = ([], .inside 1 low high (n / 4096)) ∧
      low ≤ n / 64 % 64 + 128 ∧ n / 64 % 64 + 128 ≤ high := by
  -- the second byte has narrower bounds where a shorter form would do, and in front of the gap
  by_cases hzero : n / 4096 = 0
  · refine ⟨0xA0, 0xBF, ?_, by omega, by omega⟩
    rw [hzero]
    rfl
  · by_cases hgap : n / 4096 = 13
    · refine ⟨0x80, 0x9F, ?_, by omega, by omega⟩
      rw [hgap]
      rfl
    · refine ⟨0x80, 0xBF, ?_, by omega, by omega⟩
      have hbits : n / 4096 % 16 + 224 - 0xE0 = n / 4096 := by omega
      rw [first, if_neg (by omega), if_neg (by omega), if_neg (by omega), if_neg (by omega),
        if_pos (by omega), hbits]

/-- The first of four bytes leaves open no second byte but those of characters. -/
theorem first_of_four {n : Nat} (hlow : 0x10000 ≤ n) (hhigh : n < 0x110000) :
    ∃ low high, first (n / 262144 % 8 + 240) = ([], .inside 2 low high (n / 262144)) ∧
      low ≤ n / 4096 % 64 + 128 ∧ n / 4096 % 64 + 128 ≤ high := by
  -- the second byte has narrower bounds where a shorter form would do, and at the last code points
  by_cases hzero : n / 262144 = 0
  · refine ⟨0x90, 0xBF, ?_, by omega, by omega⟩
    rw [hzero]
    rfl
  · by_cases hlast : n / 262144 = 4
    · refine ⟨0x80, 0x8F, ?_, by omega, by omega⟩
      rw [hlast]
      rfl
    · refine ⟨0x80, 0xBF, ?_, by omega, by omega⟩
      have hbits : n / 262144 % 8 + 240 - 0xF0 = n / 262144 := by omega
      rw [first, if_neg (by omega), if_neg (by omega), if_neg (by omega), if_neg (by omega),
        if_neg (by omega), if_neg (by omega), if_pos (by omega), hbits]

/-- The bytes of a character are decoded to it, whatever follows. -/
theorem run_utf8EncodeChar (c : Char) (bytes : List UInt8) :
    run .start (String.utf8EncodeChar c ++ bytes) = c :: run .start bytes := by
  have hself : Char.ofNat c.val.toNat = c := c.ofNat_toNat
  have hvalid : c.val.toNat < 0xD800 ∨ 0xDFFF < c.val.toNat ∧ c.val.toNat < 0x110000 := c.valid
  unfold String.utf8EncodeChar
  generalize c.val.toNat = n at *
  simp only
  -- one byte to four, each with the six bits that it adds
  split_ifs with hone htwo hthree
  · rw [List.singleton_append, run_byte (by omega), step, first_of_latin hone, hself]
    rfl
  · rw [List.cons_append, run_byte (by omega), step, first_of_two (by omega) htwo]
    exact (run_last (by omega) (by omega) bytes).trans (by rw [hself])
  · obtain ⟨low, high, hfirst, hlow, hhigh⟩ := first_of_three (by omega) hthree (by omega)
    rw [List.cons_append, run_byte (by omega), step, hfirst, (div_eq_div_div n).1]
    refine (run_more hlow hhigh _).trans ?_
    exact (run_last (by omega) (by omega) bytes).trans (by rw [hself])
  · obtain ⟨low, high, hfirst, hlow, hhigh⟩ := first_of_four (n := n) (by omega) (by omega)
    rw [List.cons_append, run_byte (by omega), step, hfirst, (div_eq_div_div n).1,
      (div_eq_div_div n).2]
    rw [(div_eq_div_div n).1] at hlow hhigh
    refine (run_more hlow hhigh _).trans ((run_more (by omega) (by omega) _).trans ?_)
    exact (run_last (by omega) (by omega) bytes).trans (by rw [hself])

end Decoder

/-! ## Texts -/

/-- The bytes of a text are decoded to the text. -/
theorem decodeUtf8_bytes (cs : List Char) : decodeUtf8 (bytes cs) = cs := by
  unfold decodeUtf8
  induction cs with
  | nil => rfl
  | cons c cs ih => rw [bytes_cons, Decoder.run_utf8EncodeChar, ih]

/-- A line feed keeps what is decoded on its two sides apart. -/
theorem decodeUtf8_append_lineFeed (front back : List UInt8) :
    decodeUtf8 (front ++ 0x0A :: back) = decodeUtf8 front ++ '\n' :: decodeUtf8 back :=
  Decoder.Sound.run_append_latin (d := .start) trivial front back (by decide)

/-- Where there is no line feed, none is decoded. -/
theorem lineFeed_not_mem_decodeUtf8 {bytes : List UInt8} (h : 0x0A ∉ bytes) :
    '\n' ∉ decodeUtf8 bytes :=
  Decoder.Sound.lineFeed_not_mem_run (d := .start) trivial h

/-- What stands between the line feeds on the two sides of one. -/
theorem splitOn_append_cons {α : Type} [BEq α] [LawfulBEq α] (a : α) (xs ys : List α) :
    (xs ++ a :: ys).splitOn a = xs.splitOn a ++ ys.splitOn a :=
  List.splitOnP_append_cons xs ys (beq_self_eq_true a)

/-- **Line by line**: the lines of a decoded text are the lines of its bytes, decoded one by one. -/
theorem splitOn_decodeUtf8 (bytes : List UInt8) :
    (decodeUtf8 bytes).splitOn '\n' = (bytes.splitOn 0x0A).map decodeUtf8 := by
  have halone : ∀ line : List UInt8, 0x0A ∉ line →
      (decodeUtf8 line).splitOn '\n' = (line.splitOn 0x0A).map decodeUtf8 := by
    intro line hline
    rw [List.splitOn_eq_singleton hline, List.map_singleton,
      List.splitOn_eq_singleton (lineFeed_not_mem_decodeUtf8 hline)]
  induction bytes using cutInduction (0x0A : UInt8) with
  | last line hline => exact halone line hline
  | cut line rest hline ih =>
    rw [decodeUtf8_append_lineFeed, splitOn_append_cons, splitOn_append_cons, List.map_append,
      halone line hline, ih]

/-- A character cut off by the end of its line, and one cut off by the end of the text. -/
example : decodeUtf8 [0xE2, 0x82, 0x0A, 0xC3] = ['\uFFFD', '\n', '\uFFFD'] := by decide +kernel

end Rehearsal.Text
